import K1s.Adapter.Operations
import K1s.ApiShim.Scopes

/-!
# App keys

`app_key` joins the namespace and the name of an app by two dashes, except for the default
namespace, and `split_app_key` cuts at the first two dashes.  A manifest may have any text
as its name, also one with dashes.
-/

namespace K1s
namespace Controllers

open Py ApiShim

/-- `normalize_namespace`, which the metadata of a manifest also does. -/
def normalizeNamespace (ns : Option String) : Option String :=
  (ns.map strip).bind fun ns => if ns = "" then none else some ns

/-- The name and the namespace of a manifest. -/
structure AppRef where
  name : String
  ns : Option String

namespace AppRef

/-- The namespace, with the default one for none. -/
def namespaceOf (app : AppRef) : String := (normalizeNamespace app.ns).getD "default"

def appKey (app : AppRef) : String := Adapter.appKey app.name app.ns

variable (app : AppRef)

theorem appKey_eq :
    app.appKey =
      if app.namespaceOf = "default" then app.name else app.namespaceOf ++ "--" ++ app.name := by
  unfold appKey Adapter.appKey namespaceOf normalizeNamespace
  cases app.ns.map strip with
  | none => simp
  | some ns =>
      by_cases empty : ns = "" <;> simp [empty]

theorem namespaceOf_ne_empty : app.namespaceOf ≠ "" := by
  unfold namespaceOf normalizeNamespace
  cases app.ns.map strip with
  | none => simp
  | some ns => by_cases empty : ns = "" <;> simp [empty]

def RoundTrips : Prop := splitAppKey app.appKey = (app.namespaceOf, app.name)

/-- No other app has the key. -/
def Unique : Prop :=
  ∀ other : AppRef, other.appKey = app.appKey →
    other.namespaceOf = app.namespaceOf ∧ other.name = app.name

/-- The first two dashes of the key are those that `app_key` has put, or begin the name. -/
def CutsBack : Prop :=
  if app.namespaceOf = "default" then
    cutDashes app.name.toList = none ∨ ∃ rest, app.name.toList = '-' :: '-' :: rest
  else cutDashes (app.namespaceOf.toList ++ ['-']) = none

/-- The app is in the default namespace, and its name does not begin with another one and
two dashes. -/
def StandsAlone : Prop :=
  app.namespaceOf = "default" ∧ ∀ other : AppRef,
    app.name = other.namespaceOf ++ "--" ++ other.name → other.namespaceOf = "default"

end AppRef

/-! ## Cutting at dashes -/

theorem cutDashes_cons_cons (first second : Char) (rest : List Char) :
    cutDashes (first :: second :: rest) =
      if first = '-' ∧ second = '-' then some ([], rest)
      else (cutDashes (second :: rest)).map fun cut => (first :: cut.1, cut.2) := by
  split
  · next dashes => rw [dashes.1, dashes.2, cutDashes]
  · next others =>
      rw [cutDashes]
      rintro rest rfl same
      exact others ⟨rfl, (List.cons.inj same).1⟩

/-- Text before two dashes is cut off there exactly when it has no two dashes with the first
of them. -/
theorem cutDashes_append_iff (ns rest : List Char) :
    cutDashes (ns ++ '-' :: '-' :: rest) = some (ns, rest) ↔ cutDashes (ns ++ ['-']) = none := by
  induction ns with
  | nil => simp [cutDashes]
  | cons first others ih =>
      have step : ∀ second : Char, ∀ long short : List Char,
          (cutDashes (second :: long) = some (others, rest) ↔ cutDashes (second :: short) = none) →
          (cutDashes (first :: second :: long) = some (first :: others, rest) ↔
            cutDashes (first :: second :: short) = none) := by
        intro second long short same
        rw [cutDashes_cons_cons, cutDashes_cons_cons]
        split
        · simp
        · rw [Option.map_eq_none_iff, ← same]
          cases cutDashes (second :: long) <;> simp [Prod.ext_iff]
      cases others with
      | nil => exact step '-' _ _ ih
      | cons second others => exact step second _ _ ih

theorem cutDashes_nil_iff (name rest : List Char) :
    cutDashes name = some ([], rest) ↔ name = '-' :: '-' :: rest := by
  fun_cases cutDashes name <;> simp_all

theorem length_cutDashes
    {name : List Char} {cut : List Char × List Char} (found : cutDashes name = some cut) :
    cut.2.length < name.length := by
  fun_induction cutDashes name generalizing cut with
  | case1 rest =>
      cases found
      simp
  | case2 first rest _ ih =>
      obtain ⟨inner, innerFound, rfl⟩ := Option.map_eq_some_iff.mp found
      exact (ih innerFound).trans (Nat.lt_succ_self _)
  | case3 => cases found

/-! ## The keys -/

theorem AppRef.roundTrips_iff_cutsBack (app : AppRef) : app.RoundTrips ↔ app.CutsBack := by
  rw [RoundTrips, CutsBack, appKey_eq]
  split
  · next isDefault =>
      rw [isDefault, splitAppKey]
      cases found : cutDashes app.name.toList with
      | none => simp
      | some cut =>
          obtain ⟨ns, rest⟩ := cut
          cases ns with
          | nil => simpa using ⟨rest, (cutDashes_nil_iff _ _).mp found⟩
          | cons first others =>
              have shorter := length_cutDashes found
              have uncut : ¬ ∃ rest, app.name.toList = '-' :: '-' :: rest := by
                rintro ⟨rest, dashes⟩
                rw [(cutDashes_nil_iff _ _).mpr dashes] at found
                cases found
              have different : String.ofList rest ≠ app.name := by
                rintro same
                rw [← same, String.toList_ofList] at shorter
                exact shorter.false
              simp [uncut, different]
  · next elsewhere =>
      have whole : (app.namespaceOf ++ "--" ++ app.name).toList =
          app.namespaceOf.toList ++ '-' :: '-' :: app.name.toList := by
        simp
      have someNamespace : [] ≠ app.namespaceOf.toList := fun empty =>
        app.namespaceOf_ne_empty (String.toList_eq_nil_iff.mp empty.symm)
      rw [← cutDashes_append_iff _ app.name.toList, splitAppKey, whole]
      cases cutDashes (app.namespaceOf.toList ++ '-' :: '-' :: app.name.toList) with
      | none => simp [Ne.symm elsewhere]
      | some cut =>
          obtain ⟨ns, rest⟩ := cut
          cases ns with
          | nil => simp [Ne.symm elsewhere, someNamespace]
          | cons first others => simp [← String.toList_inj]

theorem AppRef.unique_iff (app : AppRef) : app.Unique ↔ app.StandsAlone := by
  constructor
  · intro unique
    have isDefault : app.namespaceOf = "default" := (unique ⟨app.appKey, none⟩ rfl).1.symm
    refine ⟨isDefault, fun other named => ?_⟩
    by_contra elsewhere
    have same : other.appKey = app.appKey := by
      rw [appKey_eq, appKey_eq, if_neg elsewhere, if_pos isDefault, named]
    exact elsewhere ((unique other same).1.trans isDefault)
  · rintro ⟨isDefault, alone⟩ other same
    rw [appKey_eq app, if_pos isDefault] at same
    have there : other.namespaceOf = "default" := by
      by_contra elsewhere
      rw [appKey_eq, if_neg elsewhere] at same
      exact elsewhere (alone other same.symm)
    rw [appKey_eq, if_pos there] at same
    exact ⟨there.trans isDefault.symm, same⟩

/-- The key of an app can be cut back exactly when its first two dashes are not part of the
namespace or the name, and no other app has it exactly when it could not be a joined one. -/
theorem appKeys_iff (app : AppRef) :
    (app.RoundTrips ↔ app.CutsBack) ∧ (app.Unique ↔ app.StandsAlone) :=
  ⟨app.roundTrips_iff_cutsBack, app.unique_iff⟩

theorem not_unique_dashedName :
    ¬ AppRef.Unique ⟨"a--b", none⟩ ∧ ¬ AppRef.RoundTrips ⟨"a--b", none⟩ := by
  constructor
  · rw [AppRef.unique_iff]
    rintro ⟨_, alone⟩
    exact absurd (alone ⟨"b", some "a"⟩ (by decide +kernel)) (by decide +kernel)
  · rw [AppRef.roundTrips_iff_cutsBack]
    simp [AppRef.CutsBack, AppRef.namespaceOf, normalizeNamespace, cutDashes]

end Controllers
end K1s
