import K1s.Py.Text

/-!
# Taking URLs apart

`urlparse` with the parts that are used of its result, on characters.  The checks
of the standard library on the characters of an authority (the syntax of addresses
in brackets, and characters whose normal form is a delimiter) are a parameter.
-/

namespace K1s
namespace Py

/-- A URL as `urlparse` takes it apart. -/
structure ParseResult where
  scheme : List Char
  netloc : List Char
  path : List Char
  deriving DecidableEq

namespace Url

/-- The characters that are removed wherever they stand. -/
def unsafeChars : List Char := ['\t', '\r', '\n']

/-- The characters of a URL: leading controls and blanks are dropped. -/
def chars (url : List Char) : List Char :=
  (url.dropWhile fun char => decide (char.toNat ≤ 32)).filter (· ∉ unsafeChars)

def schemeChar (char : Char) : Bool :=
  char.isAlphanum || char ∈ ['+', '-', '.']

/-- The text behind the first occurrence of a character. -/
def behind (separator : Char) (text : List Char) : List Char :=
  (text.dropWhile (· ≠ separator)).drop 1

/-- The scheme, and what follows it. -/
def splitScheme (url : List Char) : List Char × List Char :=
  let before := url.takeWhile (· ≠ ':')
  if ':' ∈ url ∧ before.head?.any Char.isAlpha = true ∧ before.all schemeChar = true then
    (before.map Char.toLower, behind ':' url)
  else ([], url)

/-- The characters of which an authority is made up. -/
def netlocChar (char : Char) : Bool := char ∉ ['/', '?', '#']

/-- The authority, and what follows it. -/
def splitNetloc : List Char → List Char × List Char
  | '/' :: '/' :: rest => (rest.takeWhile netlocChar, rest.dropWhile netlocChar)
  | rest => ([], rest)

/-- The schemes whose last path segment has parameters. -/
def usesParams : List String :=
  ["", "ftp", "hdl", "prospero", "http", "https", "imap", "shttp", "rtsp", "rtspu", "sip",
    "sips", "mms", "sftp", "tel"]

/-- `_splitparams`: the last segment ends at its first semicolon. -/
def dropParams (path : List Char) : List Char :=
  let last := (path.reverse.takeWhile (· ≠ '/')).reverse
  path.take (path.length - last.length) ++ last.takeWhile (· ≠ ';')

end Url

open Url

/-- `urlparse(url)`, `none` for a `ValueError`. -/
def urlparse (refused : List Char → Bool) (url : List Char) : Option ParseResult :=
  let (scheme, rest) := splitScheme (chars url)
  let (netloc, rest) := splitNetloc rest
  if ('[' ∈ netloc ↔ ']' ∈ netloc) ∧ refused netloc = false then
    let path := (rest.takeWhile (· ≠ '#')).takeWhile (· ≠ '?')
    some
      { scheme := scheme
        netloc := netloc
        path := if String.ofList scheme ∈ usesParams then dropParams path else path }
  else none

namespace ParseResult

/-- What follows the user in an authority. -/
def hostinfo (url : ParseResult) : List Char :=
  (url.netloc.reverse.takeWhile (· ≠ '@')).reverse

/-- The host and the port as they are written. -/
def hostPort (url : ParseResult) : List Char × List Char :=
  if '[' ∈ url.hostinfo then
    let bracketed := behind '[' url.hostinfo
    (bracketed.takeWhile (· ≠ ']'), behind ':' (behind ']' bracketed))
  else (url.hostinfo.takeWhile (· ≠ ':'), behind ':' url.hostinfo)

/-- `url.hostname or ""`: the zone of an address keeps its case. -/
def hostname (url : ParseResult) : List Char :=
  let host := url.hostPort.1
  (host.takeWhile (· ≠ '%')).map Char.toLower ++ host.dropWhile (· ≠ '%')

/-- `url.port`, `none` for a `ValueError`. -/
def port (url : ParseResult) : Option (Option Nat) :=
  let text := url.hostPort.2
  if text.isEmpty then some none
  else if text.all Char.isDigit then
    if digitsValue text ≤ 65535 then some (some (digitsValue text)) else none
  else none

end ParseResult

/-! ## Lower case -/

theorem toNat_toLower (char : Char) :
    char.toLower.toNat =
      if 65 ≤ char.toNat ∧ char.toNat ≤ 90 then char.toNat + 32 else char.toNat := by
  unfold Char.toLower
  by_cases upper : 65 ≤ char.toNat ∧ char.toNat ≤ 90
  · rw [dif_pos (by simpa [UInt32.le_iff_toNat_le] using upper), if_pos upper]
    simp [← Char.toNat_val, UInt32.toNat_add] at upper ⊢
    omega
  · rw [dif_neg (by simpa [UInt32.le_iff_toNat_le] using upper), if_neg upper]

/-- Lower case makes nothing but letters. -/
theorem eq_of_toLower_eq
    {char other : Char} (equal : char.toLower = other)
    (symbol : other.isLower = false) : char = other := by
  have value := toNat_toLower char
  rw [equal] at value
  split at value
  · simp [Char.isLower, UInt32.le_iff_toNat_le] at symbol
    omega
  · exact Char.toNat_inj.mp value.symm

theorem map_toLower_map_toLower (text : List Char) :
    (text.map Char.toLower).map Char.toLower = text.map Char.toLower := by
  simp

/-! ## The parts of a URL that is put together -/

section Parts

variable {refused : List Char → Bool} {scheme netloc path : List Char}

theorem chars_eq_self
    {url : List Char} (visible : ∀ char, url.head? = some char → 32 < char.toNat)
    (safe : ∀ char ∈ url, char ∉ unsafeChars) : chars url = url := by
  have kept : url.dropWhile (fun char => decide (char.toNat ≤ 32)) = url := by
    cases url with
    | nil => rfl
    | cons first rest =>
        have later := visible first rfl
        rw [List.dropWhile_cons_of_neg (by simpa using later)]
  rw [chars, kept]
  exact List.filter_eq_self.mpr fun char member => by simpa using safe char member

theorem splitNetloc_append
    (ordinary : ∀ char ∈ netloc, netlocChar char = true)
    (rooted : path = [] ∨ path.head? = some '/') :
    splitNetloc ('/' :: '/' :: (netloc ++ path)) = (netloc, path) := by
  have ends : path.takeWhile netlocChar = [] ∧ path.dropWhile netlocChar = path := by
    rcases rooted with rfl | rooted
    · exact ⟨rfl, rfl⟩
    · obtain ⟨rest, rfl⟩ : ∃ rest, path = '/' :: rest := by
        cases path with
        | nil => cases rooted
        | cons first rest => exact ⟨rest, by rw [Option.some.inj rooted]⟩
      exact ⟨rfl, rfl⟩
  rw [splitNetloc, List.takeWhile_append_of_pos ordinary, ends.1, List.append_nil,
    List.dropWhile_append_of_pos ordinary, ends.2]

/-- The two schemes of authentication. -/
def Url.isHttp (scheme : List Char) : Prop :=
  scheme = "http".toList ∨ scheme = "https".toList

theorem splitScheme_append (http : isHttp scheme) (rest : List Char) :
    splitScheme (scheme ++ ':' :: rest) = (scheme, rest) := by
  rcases http with rfl | rfl
  · simp [splitScheme, behind, schemeChar]
  · simp [splitScheme, behind, schemeChar]

/-- Taking apart what has been put together. -/
theorem urlparse_append
    (http : isHttp scheme) (ordinary : ∀ char ∈ netloc, netlocChar char = true)
    (rooted : path = [] ∨ path.head? = some '/')
    (plain : ∀ char ∈ path, char ≠ '#' ∧ char ≠ '?') (params : dropParams path = path)
    (safe : ∀ char ∈ netloc ++ path, char ∉ unsafeChars) :
    urlparse refused (scheme ++ "://".toList ++ netloc ++ path) =
      if ('[' ∈ netloc ↔ ']' ∈ netloc) ∧ refused netloc = false then
        some ⟨scheme, netloc, path⟩
      else none := by
  have whole : scheme ++ "://".toList ++ netloc ++ path =
      scheme ++ ':' :: ('/' :: '/' :: (netloc ++ path)) := by
    simp
  have kept : chars (scheme ++ ':' :: ('/' :: '/' :: (netloc ++ path))) =
      scheme ++ ':' :: ('/' :: '/' :: (netloc ++ path)) := by
    refine chars_eq_self ?_ ?_
    · rcases http with rfl | rfl <;> (rintro char equal; cases equal; decide)
    · intro char member
      simp only [List.mem_append, List.mem_cons] at member
      rcases member with inScheme | rfl | rfl | rfl | inRest
      · rcases http with rfl | rfl
        · simp at inScheme
          rcases inScheme with rfl | rfl | rfl | rfl <;> decide
        · simp at inScheme
          rcases inScheme with rfl | rfl | rfl | rfl | rfl <;> decide
      · decide
      · decide
      · decide
      · exact safe char (List.mem_append.mpr inRest)
  have uncut : (path.takeWhile (· ≠ '#')).takeWhile (· ≠ '?') = path := by
    have noFragment : path.takeWhile (· ≠ '#') = path :=
      List.takeWhile_eq_self_iff.mpr fun char member => by simpa using (plain char member).1
    have noQuery : path.takeWhile (· ≠ '?') = path :=
      List.takeWhile_eq_self_iff.mpr fun char member => by simpa using (plain char member).2
    rw [noFragment, noQuery]
  have known : String.ofList scheme ∈ usesParams := by
    rcases http with rfl | rfl <;> decide
  rw [whole, urlparse, kept, splitScheme_append http]
  dsimp only
  rw [splitNetloc_append ordinary rooted]
  dsimp only
  rw [uncut, if_pos known, params]

end Parts

/-! ## The parts of any URL -/

theorem dropParams_append
    {init last : List Char} (segment : '/' ∉ last)
    (complete : init = [] ∨ init.getLast? = some '/') :
    dropParams (init ++ last) = init ++ last.takeWhile (· ≠ ';') := by
  have ends : init.reverse.takeWhile (· ≠ '/') = [] := by
    rcases complete with rfl | complete
    · rfl
    · obtain ⟨shorter, rfl⟩ := List.getLast?_eq_some_iff.mp complete
      simp
  have found : ((init ++ last).reverse.takeWhile (· ≠ '/')).reverse = last := by
    rw [List.reverse_append, List.takeWhile_append_of_pos, ends, List.append_nil,
      List.reverse_reverse]
    intro char member
    have distinct : char ≠ '/' := fun equal =>
      segment (equal ▸ List.mem_reverse.mp member)
    simpa using distinct
  rw [dropParams, found, List.length_append, Nat.add_sub_cancel, List.take_left]

/-- Every path is a part that ends with a slash, or nothing, and a segment. -/
theorem exists_segment (path : List Char) :
    ∃ init last, path = init ++ last ∧ '/' ∉ last ∧ (init = [] ∨ init.getLast? = some '/') := by
  induction path with
  | nil => exact ⟨[], [], rfl, by simp, .inl rfl⟩
  | cons first rest ih =>
      obtain ⟨init, last, rfl, segment, complete⟩ := ih
      by_cases slash : first = '/'
      · subst slash
        refine ⟨'/' :: init, last, rfl, segment, .inr ?_⟩
        rcases complete with rfl | complete
        · rfl
        · rw [List.getLast?_cons, complete]
          rfl
      · rcases complete with rfl | complete
        · exact ⟨[], first :: last, rfl, by simp [Ne.symm slash, segment], .inl rfl⟩
        · refine ⟨first :: init, last, rfl, segment, .inr ?_⟩
          rw [List.getLast?_cons, complete]
          rfl

theorem dropParams_dropParams (path : List Char) :
    dropParams (dropParams path) = dropParams path := by
  obtain ⟨init, last, rfl, segment, complete⟩ := exists_segment path
  have shorter : '/' ∉ last.takeWhile (· ≠ ';') := fun member =>
    segment ((List.takeWhile_sublist _).subset member)
  rw [dropParams_append segment complete, dropParams_append shorter complete, List.takeWhile_idem]

theorem mem_of_mem_dropParams
    {path : List Char} {char : Char}
    (member : char ∈ dropParams path) : char ∈ path := by
  obtain ⟨init, last, rfl, segment, complete⟩ := exists_segment path
  rw [dropParams_append segment complete] at member
  rcases List.mem_append.mp member with inInit | inLast
  · exact List.mem_append_left _ inInit
  · exact List.mem_append_right _ ((List.takeWhile_sublist _).subset inLast)

theorem head?_dropParams
    {path : List Char}
    (rooted : path.head? = some '/') : (dropParams path).head? = some '/' := by
  obtain ⟨init, last, rfl, segment, complete⟩ := exists_segment path
  rw [dropParams_append segment complete]
  cases init with
  | cons first rest => simpa using rooted
  | nil =>
      cases last with
      | nil => cases rooted
      | cons first rest =>
          rw [List.nil_append, List.head?_cons, Option.some.injEq] at rooted
          simp [rooted] at segment

/-- What holds of the parts of every URL. -/
structure ParseResult.Clean (parsed : ParseResult) : Prop where
  lowered : parsed.scheme.map Char.toLower = parsed.scheme
  ordinary : ∀ char ∈ parsed.netloc, netlocChar char = true
  rooted : parsed.netloc ≠ [] → parsed.path = [] ∨ parsed.path.head? = some '/'
  plain : ∀ char ∈ parsed.path, char ≠ '#' ∧ char ≠ '?'
  safe : ∀ char ∈ parsed.netloc ++ parsed.path, char ∉ unsafeChars
  params : String.ofList parsed.scheme ∈ usesParams → dropParams parsed.path = parsed.path

theorem map_toLower_splitScheme (url : List Char) :
    (splitScheme url).1.map Char.toLower = (splitScheme url).1 := by
  unfold splitScheme
  dsimp only
  split
  · exact map_toLower_map_toLower _
  · rfl

theorem mem_splitScheme
    {url : List Char} {char : Char}
    (member : char ∈ (splitScheme url).2) : char ∈ url := by
  unfold splitScheme at member
  dsimp only at member
  split at member
  · exact (List.dropWhile_sublist _).subset ((List.drop_sublist _ _).subset member)
  · exact member

theorem mem_splitNetloc
    {rest : List Char} {char : Char}
    (member : char ∈ (splitNetloc rest).1 ++ (splitNetloc rest).2) : char ∈ rest := by
  unfold splitNetloc at member
  split at member
  · rw [List.takeWhile_append_dropWhile] at member
    exact List.mem_cons_of_mem _ (List.mem_cons_of_mem _ member)
  · exact member

theorem netlocChar_of_mem_splitNetloc
    {rest : List Char} {char : Char}
    (member : char ∈ (splitNetloc rest).1) : netlocChar char = true := by
  unfold splitNetloc at member
  split at member
  · exact List.mem_takeWhile_imp member
  · cases member

/-- Behind an authority, a path starts with a slash unless a query or a fragment
follows at once. -/
theorem rooted_splitNetloc {rest : List Char} (given : (splitNetloc rest).1 ≠ []) :
    (splitNetloc rest).2 = [] ∨
      ∃ first later, (splitNetloc rest).2 = first :: later ∧ first ∈ ['/', '?', '#'] := by
  unfold splitNetloc at given ⊢
  split at given
  · next later =>
      cases left : later.dropWhile netlocChar with
      | nil => exact .inl rfl
      | cons first others =>
          refine .inr ⟨first, others, rfl, ?_⟩
          have stops := List.head?_dropWhile_not netlocChar later
          rw [left] at stops
          simp only [netlocChar, List.head?_cons] at stops
          by_contra other
          simp [other] at stops
  · exact absurd rfl given

/-- The path of a URL as it is written, without query and fragment. -/
def Url.cutPath (rest : List Char) : List Char :=
  (rest.takeWhile (· ≠ '#')).takeWhile (· ≠ '?')

theorem mem_cutPath
    {rest : List Char} {char : Char}
    (member : char ∈ cutPath rest) : char ∈ rest ∧ char ≠ '#' ∧ char ≠ '?' := by
  have inside := (List.takeWhile_sublist _).subset member
  exact ⟨(List.takeWhile_sublist _).subset inside,
    by simpa using List.mem_takeWhile_imp inside,
    by simpa using List.mem_takeWhile_imp member⟩

theorem rooted_cutPath {rest : List Char} (given : (splitNetloc rest).1 ≠ []) :
    cutPath (splitNetloc rest).2 = [] ∨ (cutPath (splitNetloc rest).2).head? = some '/' := by
  rcases rooted_splitNetloc given with none | ⟨first, later, found, delimits⟩
  · rw [none]
    exact .inl rfl
  · rw [found]
    simp only [List.mem_cons, List.not_mem_nil, or_false] at delimits
    rcases delimits with rfl | rfl | rfl
    · exact .inr (by simp [cutPath])
    · exact .inl (by simp [cutPath])
    · exact .inl (by simp [cutPath])

theorem clean_of_urlparse
    {refused : List Char → Bool} {url : List Char} {parsed : ParseResult}
    (made : urlparse refused url = some parsed) : parsed.Clean := by
  unfold urlparse at made
  dsimp only at made
  split at made
  case isFalse => cases made
  case isTrue =>
    obtain rfl := Option.some.inj made
    change ParseResult.Clean
      { scheme := (splitScheme (chars url)).1
        netloc := (splitNetloc (splitScheme (chars url)).2).1
        path :=
          if String.ofList (splitScheme (chars url)).1 ∈ usesParams then
            dropParams (cutPath (splitNetloc (splitScheme (chars url)).2).2)
          else cutPath (splitNetloc (splitScheme (chars url)).2).2 }
    have safe : ∀ char ∈ (splitScheme (chars url)).2, char ∉ unsafeChars := by
      intro char member
      simpa using (List.mem_filter.mp (mem_splitScheme member)).2
    have lowered := map_toLower_splitScheme (chars url)
    generalize (splitScheme (chars url)).2 = rest at safe
    generalize (splitScheme (chars url)).1 = scheme at lowered
    have shorter : ∀ char ∈ (if String.ofList scheme ∈ usesParams then
        dropParams (cutPath (splitNetloc rest).2) else cutPath (splitNetloc rest).2),
        char ∈ cutPath (splitNetloc rest).2 := by
      intro char member
      split at member
      · exact mem_of_mem_dropParams member
      · exact member
    refine ⟨lowered, fun char => netlocChar_of_mem_splitNetloc, fun given => ?_, ?_, ?_, ?_⟩
    · have rooted := rooted_cutPath given
      dsimp only
      split
      · rcases rooted with none | rooted
        · exact .inl (by rw [none]; rfl)
        · exact .inr (head?_dropParams rooted)
      · exact rooted
    · intro char member
      exact (mem_cutPath (shorter char member)).2
    · intro char member
      refine safe char (mem_splitNetloc ?_)
      rcases List.mem_append.mp member with inNetloc | inPath
      · exact List.mem_append_left _ inNetloc
      · exact List.mem_append_right _ (mem_cutPath (shorter char inPath)).1
    · intro known
      dsimp only at known ⊢
      rw [if_pos known, dropParams_dropParams]

/-! ## Hosts -/

section Hosts

variable {parsed : ParseResult} {char : Char}

theorem mem_netloc_of_mem_hostinfo (member : char ∈ parsed.hostinfo) :
    char ∈ parsed.netloc ∧ char ≠ '@' := by
  have reversed := List.mem_reverse.mp member
  exact ⟨List.mem_reverse.mp ((List.takeWhile_sublist _).subset reversed),
    by simpa using List.mem_takeWhile_imp reversed⟩

theorem mem_behind
    {separator : Char} {text : List Char}
    (member : char ∈ behind separator text) : char ∈ text :=
  (List.dropWhile_sublist _).subset ((List.drop_sublist _ _).subset member)

theorem mem_hostinfo_of_mem_host (member : char ∈ parsed.hostPort.1) :
    char ∈ parsed.hostinfo := by
  unfold ParseResult.hostPort at member
  split at member
  · exact mem_behind ((List.takeWhile_sublist _).subset member)
  · exact (List.takeWhile_sublist _).subset member

/-- A host has an opening or a closing bracket at most. -/
theorem not_brackets_host : ¬ ('[' ∈ parsed.hostPort.1 ∧ ']' ∈ parsed.hostPort.1) := by
  rintro ⟨opening, closing⟩
  unfold ParseResult.hostPort at opening closing
  split at closing
  · simpa using List.mem_takeWhile_imp closing
  · next absent =>
      rw [if_neg absent] at opening
      exact absent ((List.takeWhile_sublist _).subset opening)

/-- A sign in the host name stands in the host. -/
theorem mem_host_of_mem_hostname
    (member : char ∈ parsed.hostname)
    (symbol : char.isLower = false) : char ∈ parsed.hostPort.1 := by
  rcases List.mem_append.mp member with before | after
  · obtain ⟨written, found, lowered⟩ := List.mem_map.mp before
    obtain rfl := eq_of_toLower_eq lowered symbol
    exact (List.takeWhile_sublist _).subset found
  · exact (List.dropWhile_sublist _).subset after

theorem not_mem_hostname
    (absent : char ∉ parsed.netloc)
    (symbol : char.isLower = false) : char ∉ parsed.hostname := fun member =>
  absent (mem_netloc_of_mem_hostinfo (mem_hostinfo_of_mem_host
    (mem_host_of_mem_hostname member symbol))).1

theorem netloc_ne_nil (given : parsed.hostname ≠ []) : parsed.netloc ≠ [] := by
  intro none
  refine given ?_
  simp [ParseResult.hostname, ParseResult.hostPort, ParseResult.hostinfo, none]

theorem behind_append
    {separator : Char} {before after : List Char} (absent : separator ∉ before) :
    behind separator (before ++ separator :: after) = after := by
  have stops : ∀ char ∈ before, decide (char ≠ separator) = true := by
    intro char member
    have distinct : char ≠ separator := fun equal => absent (equal ▸ member)
    simpa using distinct
  rw [behind, List.dropWhile_append_of_pos stops, List.dropWhile_cons_of_neg (by simp)]
  rfl

theorem hostname_hostname
    {other : ParseResult}
    (same : other.hostPort.1 = parsed.hostname) : other.hostname = parsed.hostname := by
  have stops : ∀ char ∈ (parsed.hostPort.1.takeWhile (· ≠ '%')).map Char.toLower,
      decide (char ≠ '%') = true := by
    intro char member
    obtain ⟨written, found, rfl⟩ := List.mem_map.mp member
    have distinct := List.mem_takeWhile_imp found
    simp only [decide_eq_true_eq] at distinct ⊢
    exact fun percent => distinct (eq_of_toLower_eq percent (by decide))
  have rest : (parsed.hostPort.1.dropWhile (· ≠ '%')).takeWhile (· ≠ '%') = [] ∧
      (parsed.hostPort.1.dropWhile (· ≠ '%')).dropWhile (· ≠ '%') =
        parsed.hostPort.1.dropWhile (· ≠ '%') := by
    have percent := List.head?_dropWhile_not (fun char => decide (char ≠ '%')) parsed.hostPort.1
    cases left : parsed.hostPort.1.dropWhile (· ≠ '%') with
    | nil => exact ⟨rfl, rfl⟩
    | cons first later =>
        rw [left] at percent
        rw [List.takeWhile_cons_of_neg (by simpa using percent),
          List.dropWhile_cons_of_neg (by simpa using percent)]
        exact ⟨rfl, rfl⟩
  rw [ParseResult.hostname, same, ParseResult.hostname,
    List.takeWhile_append_of_pos stops, List.dropWhile_append_of_pos stops, rest.1, rest.2,
    List.append_nil, map_toLower_map_toLower]

end Hosts

end Py
end K1s
