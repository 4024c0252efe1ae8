import K1s.Lib.Matching
import K1s.Py.Encode
import K1s.Scheduling.Plan

/-!
# Apps and revisions read from pod names

The scheduler names a pod by its app, its revision and its number.  `_pod_revision` takes
the first `-rev`, digits and `-` of the name for the revision, and `_on_probe_event` takes
what stands before the last `-rev`, digits, `-` and digits for the app.

The main result says when both give back what the name was built from: exactly if the
first marker of a revision in the app, followed by a dash, has the number of the revision,
and the app has no line feed or no dash.
-/

namespace K1s
namespace Rollout

open Py Matching
open Scheduling (revisionPodNames)

/-! ## Digits -/

/-- The zeros of the decimal digits of Unicode 14, each followed by the other nine. -/
def decimalZeros : List Nat :=
  [0x30, 0x660, 0x6F0, 0x7C0, 0x966, 0x9E6, 0xA66, 0xAE6, 0xB66, 0xBE6, 0xC66, 0xCE6, 0xD66,
    0xDE6, 0xE50, 0xED0, 0xF20, 0x1040, 0x1090, 0x17E0, 0x1810, 0x1946, 0x19D0, 0x1A80, 0x1A90,
    0x1B50, 0x1BB0, 0x1C40, 0x1C50, 0xA620, 0xA8D0, 0xA900, 0xA9D0, 0xA9F0, 0xAA50, 0xABF0,
    0xFF10, 0x104A0, 0x10D30, 0x11066, 0x110F0, 0x11136, 0x111D0, 0x112F0, 0x11450, 0x114D0,
    0x11650, 0x116C0, 0x11730, 0x118E0, 0x11950, 0x11C50, 0x11D50, 0x11DA0, 0x16A60, 0x16AC0,
    0x16B50, 0x1D7CE, 0x1D7D8, 0x1D7E2, 0x1D7EC, 0x1D7F6, 0x1E140, 0x1E2F0, 0x1E950, 0x1FBF0]

def decimalValue (character : Char) : Option Nat :=
  decimalZeros.findSome? fun start =>
    if start ≤ character.toNat ∧ character.toNat < start + 10 then some (character.toNat - start)
    else none

/-- `\d`. -/
def isDecimal (character : Char) : Bool := (decimalValue character).isSome

/-- `int(digits)`. -/
def decimalNumber (digits : List Char) : Nat :=
  digits.foldl (fun value digit => 10 * value + (decimalValue digit).getD 0) 0

/-! ## Pod names -/

def podName (app : String) (revision idx : Nat) : String :=
  app ++ "-rev" ++ toString (revision : Int) ++ "-" ++ toString idx

/-- What follows `-rev`. -/
def afterMarker : List Char → Option (List Char)
  | '-' :: 'r' :: 'e' :: 'v' :: rest => some rest
  | _ => none

/-- `-rev(\d+)-` at the start of a text. -/
def revisionAt (text : List Char) : Option Nat :=
  (afterMarker text).bind fun rest =>
    if rest.takeWhile isDecimal ≠ [] ∧ (rest.dropWhile isDecimal).head? = some '-' then
      some (decimalNumber (rest.takeWhile isDecimal))
    else none

def stateRevision : Json → Option Int
  | .int revision => some revision
  | .bool revision => some (if revision then 1 else 0)
  | .str text => if isDigits text then some (digitsValue text.toList) else none
  | _ => none

/-- `_pod_revision`, from the revisions of the states. -/
def podRevision (podName : String) (revisions : List Json) : Option Int :=
  (revisions.findSome? stateRevision).or
    ((firstMatch revisionAt podName.toList).map fun revision => (revision : Int))

def countsAsCurrent (current : Int) (podName : String) (revisions : List Json) : Option Bool :=
  (podRevision podName revisions).map fun revision => decide (revision = current)

/-- `-rev\d+-\d+$` at the start of a text. -/
def endsPodName (text : List Char) : Bool :=
  match afterMarker text with
  | none => false
  | some rest =>
      match rest.takeWhile isDecimal, rest.dropWhile isDecimal with
      | _ :: _, '-' :: more =>
          !(more.takeWhile isDecimal).isEmpty &&
            (more.dropWhile isDecimal = [] || more.dropWhile isDecimal = ['\n'])
      | _, _ => false

/-- The app for which `_on_probe_event` records the event of a pod. -/
def probeEventApp (podName : String) : String :=
  match longestPrefix (fun character => decide (character ≠ '\n')) endsPodName podName.toList with
  | some app => String.ofList app
  | none =>
      if podName.toList.contains '-' then
        String.ofList (podName.toList.takeWhile fun character => decide (character ≠ '-'))
      else podName

/-- What the name was built from is read from it. -/
structure RoundTrips (app : String) (revision idx : Nat) : Prop where
  readsRevision : podRevision (podName app revision idx) [] = some (revision : Int)
  readsApp : probeEventApp (podName app revision idx) = app
  classifies : ∀ current : Int, countsAsCurrent current (podName app revision idx) [] =
    some (decide ((revision : Int) = current))

/-- The first marker in the app, followed by a dash, has the number of the revision, and
the app has no line feed or no dash. -/
structure Unambiguous (app : String) (revision : Nat) : Prop where
  marker : ∀ front number, IsFirst revisionAt (app.toList ++ ['-']) front number →
    number = revision
  app : '\n' ∉ app.toList ∨ '-' ∉ app.toList

/-! ## Markers -/

/-- The characters of `-rev`. -/
def marker : List Char := ['-', 'r', 'e', 'v']

theorem afterMarker_eq_some_iff (text rest : List Char) :
    afterMarker text = some rest ↔ text = marker ++ rest := by
  constructor
  · intro found
    unfold afterMarker at found
    split at found
    · obtain rfl := Option.some.inj found
      rfl
    · cases found
  · rintro rfl
    rfl

/-- Decimal digits, one at least. -/
structure Decimals (digits : List Char) : Prop where
  nonempty : digits ≠ []
  decimal : ∀ digit ∈ digits, isDecimal digit = true

theorem Decimals.notMem
    {digits : List Char} (decimals : Decimals digits) {character : Char}
    (other : isDecimal character = false) : character ∉ digits := by
  intro member
  rw [decimals.decimal character member] at other
  cases other

theorem isDecimal_dash : isDecimal '-' = false := by decide +kernel

theorem isDecimal_r : isDecimal 'r' = false := by decide +kernel

/-- The digits before what is no digit. -/
theorem Decimals.takeWhile_append
    {digits : List Char} (decimals : Decimals digits) (back : List Char)
    (stops : ∀ character ∈ back.head?, isDecimal character = false) :
    (digits ++ back).takeWhile isDecimal = digits ∧
      (digits ++ back).dropWhile isDecimal = back := by
  have stopped : back.takeWhile isDecimal = [] ∧ back.dropWhile isDecimal = back := by
    cases back with
    | nil => exact ⟨rfl, rfl⟩
    | cons character rest =>
        have stop := stops character rfl
        simp [stop]
  rw [List.takeWhile_append_of_pos decimals.decimal, List.dropWhile_append_of_pos decimals.decimal,
    stopped.1, stopped.2, List.append_nil]
  exact ⟨rfl, rfl⟩

theorem decimals_takeWhile
    {text : List Char}
    (nonempty : text.takeWhile isDecimal ≠ []) : Decimals (text.takeWhile isDecimal) :=
  ⟨nonempty, fun _ member => List.mem_takeWhile_imp member⟩

theorem revisionAt_eq_some_iff (text : List Char) (number : Nat) :
    revisionAt text = some number ↔
      ∃ digits back, text = marker ++ (digits ++ '-' :: back) ∧ Decimals digits ∧
        decimalNumber digits = number := by
  unfold revisionAt
  rw [Option.bind_eq_some_iff]
  constructor
  · rintro ⟨rest, isMarker, found⟩
    rw [afterMarker_eq_some_iff] at isMarker
    split at found
    · next both =>
        obtain ⟨back, stops⟩ : ∃ back, rest.dropWhile isDecimal = '-' :: back := by
          cases after : rest.dropWhile isDecimal with
          | nil => simp [after] at both
          | cons first back =>
              obtain rfl : first = '-' := by simpa [after] using both.2
              exact ⟨back, rfl⟩
        refine ⟨_, back, ?_, decimals_takeWhile both.1, Option.some.inj found⟩
        rw [← stops, List.takeWhile_append_dropWhile, isMarker]
    · cases found
  · rintro ⟨digits, back, rfl, decimals, rfl⟩
    obtain ⟨taken, dropped⟩ := decimals.takeWhile_append ('-' :: back) (by
      intro character head
      obtain rfl := Option.some.inj head
      exact isDecimal_dash)
    refine ⟨_, (afterMarker_eq_some_iff _ _).mpr rfl, ?_⟩
    rw [taken, dropped, if_pos ⟨decimals.nonempty, rfl⟩]

/-! ## The revision -/

theorem decimalValue_of_isDigit {digit : Char} (isDigit : digit.isDigit = true) :
    decimalValue digit = some (digit.toNat - '0'.toNat) := by
  have bounds : 48 ≤ digit.toNat ∧ digit.toNat ≤ 57 := by
    simpa [Char.isDigit, Char.le_def, UInt32.le_iff_toNat_le] using isDigit
  have first : (if 0x30 ≤ digit.toNat ∧ digit.toNat < 0x30 + 10 then
      some (digit.toNat - 0x30) else none) = some (digit.toNat - 0x30) := if_pos (by omega)
  unfold decimalValue decimalZeros
  rw [List.findSome?_cons, first]
  rfl

theorem decimals_toDigits (number : Nat) :
    Decimals (Nat.toDigits 10 number) ∧ decimalNumber (Nat.toDigits 10 number) = number := by
  have areDigits : ∀ digit ∈ Nat.toDigits 10 number, digit.isDigit = true :=
    fun _ member => Nat.isDigit_of_mem_toDigits (by decide) (by decide) member
  refine ⟨⟨Nat.toDigits_ne_nil, fun digit member => ?_⟩, ?_⟩
  · rw [isDecimal, decimalValue_of_isDigit (areDigits digit member)]
    rfl
  · have same : ∀ (digits : List Char) (value : Nat),
        (∀ digit ∈ digits, digit.isDigit = true) →
          digits.foldl (fun value digit => 10 * value + (decimalValue digit).getD 0) value =
            digits.foldl (fun value digit => 10 * value + (digit.toNat - '0'.toNat)) value := by
      intro digits
      induction digits with
      | nil => exact fun _ _ => rfl
      | cons digit rest ih =>
          intro value allDigits
          obtain ⟨isDigit, restDigits⟩ := List.forall_mem_cons.mp allDigits
          rw [List.foldl_cons, List.foldl_cons, ih _ restDigits,
            decimalValue_of_isDigit isDigit, Option.getD_some]
    exact (same _ 0 areDigits).trans (digitsValue_toDigits number)

theorem toList_podName (app : String) (revision idx : Nat) :
    (podName app revision idx).toList =
      app.toList ++ (marker ++ (Nat.toDigits 10 revision ++ '-' :: Nat.toDigits 10 idx)) := by
  have markerText : "-rev".toList = marker := by decide
  have dash : "-".toList = ['-'] := by decide
  simp only [podName, String.toList_append, markerText, dash, toList_toString_int,
    Nat.toString_eq_repr, Nat.toList_repr, List.append_assoc, List.singleton_append]
  simp

section Name

variable {app : List Char} {number : Nat}

/-- A revision that starts in the app is one of the app followed by a dash. -/
theorem matchesAfter_append_iff (tail front : List Char) :
    MatchesAfter revisionAt (app ++ '-' :: tail) front number ∧ front.length < app.length ↔
      MatchesAfter revisionAt (app ++ ['-']) front number := by
  constructor
  · rintro ⟨⟨rest, split, matched⟩, short⟩
    obtain ⟨digits, back, rfl, decimals, isNumber⟩ := (revisionAt_eq_some_iff _ _).mp matched
    have shown : app ++ '-' :: tail = (front ++ marker ++ digits) ++ '-' :: back := by
      simp [split]
    have ends : ∃ inner, app ++ ['-'] = (front ++ marker ++ digits) ++ '-' :: inner := by
      rcases List.append_eq_append_iff.mp shown with ⟨middle, isFront, rest⟩ | ⟨middle, isApp, rest⟩
      · cases middle with
        | nil => exact ⟨[], by rw [isFront, List.append_nil]⟩
        | cons first others =>
            -- The app would end inside of the marker or the digits, which have no further dash.
            exfalso
            obtain ⟨rfl, -⟩ := List.cons.inj rest
            rw [List.append_assoc] at isFront
            rcases List.append_eq_append_iff.mp isFront with ⟨start, isApp, inner⟩ | ⟨start, isFront, -⟩
            · cases start with
              | nil => simp [isApp] at short
              | cons head start =>
                  obtain ⟨-, inner⟩ := List.cons.inj inner
                  have dash : '-' ∈ ['r', 'e', 'v'] ++ digits := by
                    rw [show ['r', 'e', 'v'] ++ digits = start ++ '-' :: others from inner]
                    simp
                  rcases List.mem_append.mp dash with letters | isDigit
                  · exact absurd letters (by decide)
                  · exact decimals.notMem isDecimal_dash isDigit
            · rw [isFront, List.length_append] at short
              omega
      · cases middle with
        | nil => exact ⟨[], by rw [isApp, List.append_nil]⟩
        | cons first others =>
            obtain ⟨rfl, -⟩ := List.cons.inj rest
            exact ⟨others ++ ['-'], by simp [isApp]⟩
    obtain ⟨inner, isInner⟩ := ends
    refine ⟨marker ++ (digits ++ '-' :: inner), by simp [isInner], ?_⟩
    exact (revisionAt_eq_some_iff _ _).mpr ⟨digits, inner, rfl, decimals, isNumber⟩
  · rintro ⟨rest, split, matched⟩
    obtain ⟨digits, back, rfl, decimals, isNumber⟩ := (revisionAt_eq_some_iff _ _).mp matched
    constructor
    · refine ⟨marker ++ (digits ++ '-' :: (back ++ tail)), ?_, ?_⟩
      · have longer := congrArg (· ++ tail) split
        simpa using longer
      · exact (revisionAt_eq_some_iff _ _).mpr ⟨digits, back ++ tail, rfl, decimals, isNumber⟩
    · have length := congrArg List.length split
      have markerLength : marker.length = 4 := rfl
      simp only [List.length_append, List.length_cons, List.length_nil, markerLength] at length
      omega

/-- The marker of the name itself. -/
theorem matchesAfter_app (app : List Char) (revision idx : Nat) :
    MatchesAfter revisionAt
      (app ++ (marker ++ (Nat.toDigits 10 revision ++ '-' :: Nat.toDigits 10 idx))) app
      revision := by
  obtain ⟨decimals, isNumber⟩ := decimals_toDigits revision
  exact ⟨_, rfl, (revisionAt_eq_some_iff _ _).mpr ⟨_, _, rfl, decimals, isNumber⟩⟩

/-- What is read behind the app is the revision. -/
theorem eq_of_matchesAfter
    {front : List Char} {revision idx : Nat}
    (matched : MatchesAfter revisionAt
      (app ++ (marker ++ (Nat.toDigits 10 revision ++ '-' :: Nat.toDigits 10 idx))) front number)
    (length : front.length = app.length) : number = revision := by
  obtain ⟨rest, split, found⟩ := matched
  obtain ⟨rfl, rfl⟩ := List.append_inj split.symm length
  obtain ⟨_, split, own⟩ := matchesAfter_app front revision idx
  obtain rfl := List.append_cancel_left split
  exact Option.some.inj (found.symm.trans own)

/-- The first marker of the name has the number of the revision exactly if that of the app
has it. -/
theorem firstMatch_eq_some_iff_marker (app : List Char) (revision idx : Nat) :
    firstMatch revisionAt
        (app ++ (marker ++ (Nat.toDigits 10 revision ++ '-' :: Nat.toDigits 10 idx))) =
          some revision ↔
      ∀ front number, IsFirst revisionAt (app ++ ['-']) front number → number = revision := by
  have inApp : ∀ (front : List Char) (number : Nat), MatchesAfter revisionAt
          (app ++ (marker ++ (Nat.toDigits 10 revision ++ '-' :: Nat.toDigits 10 idx))) front
            number ∧ front.length < app.length ↔
        MatchesAfter revisionAt (app ++ ['-']) front number :=
    fun front number => matchesAfter_append_iff
      ('r' :: 'e' :: 'v' :: (Nat.toDigits 10 revision ++ '-' :: Nat.toDigits 10 idx)) front
  have own := matchesAfter_app app revision idx
  constructor
  · intro found front number first
    obtain ⟨succeeds, short⟩ := (inApp front number).mpr first.succeeds
    have isFirst : IsFirst revisionAt
        (app ++ (marker ++ (Nat.toDigits 10 revision ++ '-' :: Nat.toDigits 10 idx))) front
          number := by
      refine ⟨succeeds, ?_⟩
      intro other otherNumber otherSucceeds
      by_cases otherShort : other.length < app.length
      · exact first.least other otherNumber ((inApp other otherNumber).mp ⟨otherSucceeds, otherShort⟩)
      · omega
    have same := firstMatch_eq_some_iff.mpr ⟨front, isFirst⟩
    exact Option.some.inj (same.symm.trans found)
  · intro sameNumber
    obtain ⟨number, found⟩ := exists_firstMatch own
    obtain ⟨front, isFirst⟩ := exists_isFirst found
    have isRevision : number = revision := by
      by_cases short : front.length < app.length
      · refine sameNumber front number ⟨(inApp front number).mp ⟨isFirst.succeeds, short⟩, ?_⟩
        intro other otherNumber otherSucceeds
        exact isFirst.least other otherNumber ((inApp other otherNumber).mpr otherSucceeds).1
      · have least := isFirst.least app revision own
        exact eq_of_matchesAfter isFirst.succeeds (by omega)
    rw [found, isRevision]

end Name

/-! ## The app -/

theorem endsPodName_iff (text : List Char) :
    endsPodName text = true ↔
      ∃ digits more last, text = marker ++ (digits ++ '-' :: (more ++ last)) ∧
        Decimals digits ∧ Decimals more ∧ (last = [] ∨ last = ['\n']) := by
  constructor
  · intro ends
    unfold endsPodName at ends
    split at ends
    · cases ends
    · next rest isMarker =>
        rw [afterMarker_eq_some_iff] at isMarker
        split at ends
        · next first digits more taken dropped =>
            rw [Bool.and_eq_true, Bool.not_eq_true', List.isEmpty_eq_false_iff, Bool.or_eq_true,
              decide_eq_true_eq, decide_eq_true_eq] at ends
            refine ⟨rest.takeWhile isDecimal, more.takeWhile isDecimal, more.dropWhile isDecimal,
              ?_, decimals_takeWhile (by simp [taken]), decimals_takeWhile ends.1, ends.2⟩
            rw [List.takeWhile_append_dropWhile, ← dropped, List.takeWhile_append_dropWhile,
              isMarker]
        · cases ends
  · rintro ⟨digits, more, last, rfl, decimals, moreDecimals, isLast⟩
    obtain ⟨taken, dropped⟩ := decimals.takeWhile_append ('-' :: (more ++ last)) (by
      intro character head
      obtain rfl := Option.some.inj head
      exact isDecimal_dash)
    obtain ⟨moreTaken, moreDropped⟩ := moreDecimals.takeWhile_append last (by
      rintro character head
      rcases isLast with rfl | rfl
      · cases head
      · obtain rfl := Option.some.inj head
        decide +kernel)
    have found : afterMarker (marker ++ (digits ++ '-' :: (more ++ last))) =
        some (digits ++ '-' :: (more ++ last)) := (afterMarker_eq_some_iff _ _).mpr rfl
    cases digits with
    | nil => exact absurd rfl decimals.nonempty
    | cons first others =>
        unfold endsPodName
        rw [found]
        dsimp only
        rw [taken, dropped]
        change (!(List.takeWhile isDecimal (more ++ last)).isEmpty &&
          (decide (List.dropWhile isDecimal (more ++ last) = []) ||
            decide (List.dropWhile isDecimal (more ++ last) = ['\n']))) = true
        rw [moreTaken, moreDropped]
        have nonempty := moreDecimals.nonempty
        rcases isLast with rfl | rfl <;> simp [nonempty]

theorem eq_nil_of_endsPodName
    {front back : List Char} (outer : endsPodName (front ++ back) = true)
    (inner : endsPodName back = true) : front = [] := by
  obtain ⟨digits, more, last, split, decimals, moreDecimals, isLast⟩ :=
    (endsPodName_iff _).mp outer
  obtain ⟨innerDigits, innerMore, innerLast, rfl, -⟩ := (endsPodName_iff _).mp inner
  -- There is one `r` in the end of a name, the second character.
  have onlyLetter : 'r' ∉ digits ++ '-' :: (more ++ last) := by
    simp only [List.mem_append, List.mem_cons, not_or]
    refine ⟨decimals.notMem isDecimal_r, by decide, moreDecimals.notMem isDecimal_r, ?_⟩
    rcases isLast with rfl | rfl <;> decide
  rcases front with _ | ⟨first, _ | ⟨second, _ | ⟨third, _ | ⟨fourth, others⟩⟩⟩⟩
  · rfl
  · simp [marker] at split
  · simp [marker] at split
  · simp [marker] at split
  · exfalso
    apply onlyLetter
    simp only [marker, List.cons_append, List.nil_append, List.cons.injEq] at split
    rw [← split.2.2.2.2]
    simp

theorem endsPodName_name (revision idx : Nat) :
    endsPodName (marker ++ (Nat.toDigits 10 revision ++ '-' :: Nat.toDigits 10 idx)) = true :=
  (endsPodName_iff _).mpr ⟨_, _, [], by rw [List.append_nil], (decimals_toDigits revision).1,
    (decimals_toDigits idx).1, .inl rfl⟩

/-- The app of the name of a pod: the greedy match, or what comes before the first dash. -/
theorem probeEventApp_podName (app : String) (revision idx : Nat) :
    probeEventApp (podName app revision idx) =
      if app.toList ≠ [] ∧ '\n' ∉ app.toList then app
      else String.ofList (app.toList.takeWhile fun character => decide (character ≠ '-')) := by
  have ends := endsPodName_name revision idx
  have isApp : ∀ found, longestPrefix (fun character => decide (character ≠ '\n')) endsPodName
      (podName app revision idx).toList = some found →
        found = app.toList ∧ app.toList ≠ [] ∧ '\n' ∉ app.toList := by
    intro found longest
    obtain ⟨nonempty, allowed, rest, split, accepted⟩ := isPrefix_of_longestPrefix longest
    rw [toList_podName] at split
    have same : found = app.toList := by
      rcases List.append_eq_append_iff.mp split with ⟨middle, isFound, isRest⟩ | ⟨middle, isApp, isRest⟩
      · rw [isRest] at ends
        rw [isFound, eq_nil_of_endsPodName ends accepted, List.append_nil]
      · rw [isRest] at accepted
        rw [isApp, eq_nil_of_endsPodName accepted ends, List.append_nil]
    subst same
    refine ⟨rfl, nonempty, ?_⟩
    intro member
    exact absurd rfl (of_decide_eq_true (allowed _ member))
  unfold probeEventApp
  split
  · next found longest =>
      obtain ⟨rfl, good⟩ := isApp found longest
      rw [if_pos good, String.ofList_toList]
  · next noPrefix =>
      have bad : ¬ (app.toList ≠ [] ∧ '\n' ∉ app.toList) := by
        rintro ⟨nonempty, noNewline⟩
        have isPrefix : IsPrefix (fun character => decide (character ≠ '\n')) endsPodName
            (podName app revision idx).toList app.toList :=
          ⟨nonempty, fun character member => decide_eq_true fun same => noNewline (same ▸ member),
            _, toList_podName app revision idx, ends⟩
        obtain ⟨found, isFound⟩ := exists_longestPrefix isPrefix
        rw [isFound] at noPrefix
        cases noPrefix
      have dash : (podName app revision idx).toList.contains '-' = true := by
        rw [toList_podName, List.contains_iff_mem]
        simp [marker]
      rw [if_pos dash, if_neg bad, toList_podName]
      congr 1
      rw [List.takeWhile_append]
      split
      · next whole =>
          rw [(List.takeWhile_prefix _).eq_of_length whole]
          simp [marker]
      · rfl

/-- The app is read from the name exactly if it has no line feed or no dash. -/
theorem probeEventApp_eq_iff (app : String) (revision idx : Nat) :
    probeEventApp (podName app revision idx) = app ↔ '\n' ∉ app.toList ∨ '-' ∉ app.toList := by
  have whole : String.ofList (app.toList.takeWhile fun character => decide (character ≠ '-')) =
      app ↔ '-' ∉ app.toList := by
    rw [← String.toList_inj, String.toList_ofList, List.takeWhile_eq_self_iff]
    constructor
    · intro noDash member
      exact absurd rfl (of_decide_eq_true (noDash _ member))
    · intro noDash character member
      exact decide_eq_true fun same => noDash (same ▸ member)
  rw [probeEventApp_podName]
  by_cases good : app.toList ≠ [] ∧ '\n' ∉ app.toList
  · rw [if_pos good]
    exact ⟨fun _ => .inl good.2, fun _ => rfl⟩
  · rw [if_neg good, whole]
    constructor
    · exact .inr
    · rintro (noNewline | noDash)
      · have empty : app.toList = [] := not_not.mp fun nonempty => good ⟨nonempty, noNewline⟩
        rw [empty]
        exact List.not_mem_nil
      · exact noDash

/-! ## Round trips -/

/-- The name of a pod gives back its revision and its app exactly if the first marker in
the app has the same number, and the app has no line feed or no dash. -/
theorem roundTrips_iff (app : String) (revision idx : Nat) :
    RoundTrips app revision idx ↔ Unambiguous app revision := by
  have reads : podRevision (podName app revision idx) [] = some (revision : Int) ↔
      ∀ front number, IsFirst revisionAt (app.toList ++ ['-']) front number →
        number = revision := by
    rw [← firstMatch_eq_some_iff_marker app.toList revision idx, ← toList_podName, podRevision,
      List.findSome?_nil, Option.none_or]
    cases firstMatch revisionAt (podName app revision idx).toList with
    | none => simp
    | some number => simp
  constructor
  · intro trips
    exact ⟨reads.mp trips.readsRevision, (probeEventApp_eq_iff app revision idx).mp trips.readsApp⟩
  · intro unambiguous
    refine ⟨reads.mpr unambiguous.marker, (probeEventApp_eq_iff app revision idx).mpr unambiguous.app,
      ?_⟩
    intro current
    rw [countsAsCurrent, reads.mpr unambiguous.marker, Option.map_some]

/-- The pods of the third revision of an app `web-rev2` are read as those of the second. -/
theorem not_roundTrips_revisionInApp : ¬ RoundTrips "web-rev2" 3 0 := by
  intro trips
  have second : podRevision (podName "web-rev2" 3 0) [] = some 2 := by decide +kernel
  have third := trips.readsRevision
  rw [second] at third
  cases third

end Rollout
end K1s
