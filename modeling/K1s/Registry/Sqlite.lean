import K1s.Lib.Dictionary
import K1s.Lib.Machine
import K1s.Py.Json

/-!
# The registry in SQLite

`SQLiteStateStore` keeps the registered applications and the authority objects
in two tables.  Every row has a resource version, which is one more with each
write.  A write or a deletion may name the version it expects to find.

The version is a counter of the row: after a deletion it starts again at one.
The main result says exactly when an operation that names a version it has read
can succeed although the object has been written since.
-/

namespace K1s
namespace Registry

open Py (Dict Json)

/-! ## Rows -/

/-- A row of `app_registry`.  The specification and the labels are kept as the
values their JSON texts denote. -/
structure AppRow where
  specHash : String
  spec : Json
  source : String
  labels : Json
  updatedAt : String
  resourceVersion : Int
  /-- Rows are written with a version of at least one. -/
  positive : 1 ≤ resourceVersion

/-- The primary key of `authority_objects`. -/
structure ObjectKey where
  group : String
  version : String
  resource : String
  namespaceKey : String
  name : String
  deriving DecidableEq

/-- A row of `authority_objects`. -/
structure ObjectRow where
  kind : String
  metadata : Dict
  spec : Dict
  status : Dict
  updatedAt : String
  resourceVersion : Int
  /-- Rows are written with a version of at least one. -/
  positive : 1 ≤ resourceVersion

structure Tables where
  apps : Dictionary String AppRow
  objects : Dictionary ObjectKey ObjectRow

/-- `RegistryConflictError`. -/
structure RegistryConflict where
  name : String
  expected : Int
  actual : Int
  deriving DecidableEq

/-- What `register_app` takes of a manifest: `app_key_for_manifest`,
`model_dump(by_alias=True)` and `_manifest_hash`. -/
structure Manifest where
  appName : String
  spec : Json
  specHash : String

/-! ## Operations -/

/-- `max(1, current_rv + 1)`. -/
def nextVersion (current : Int) : Int := max 1 (current + 1)

theorem one_le_nextVersion (current : Int) : 1 ≤ nextVersion current := le_max_left ..

theorem lt_nextVersion (current : Int) : current < nextVersion current :=
  lt_of_lt_of_le (lt_add_one current) (le_max_right ..)

def checkVersion (name : String) (expected : Option Int) (current : Int) :
    Except RegistryConflict Unit :=
  match expected with
  | some version =>
      if current ≠ version then .error ⟨name, version, current⟩ else .ok ()
  | none => .ok ()

/-- The labels of a stored row: what is no object counts as no labels. -/
def storedLabels : Json → Dict
  | .dict entries => entries
  | _ => []

/-- `source or existing_source or "unknown"`. -/
def sourceValue (given existing : Option String) : String :=
  match given with
  | some source => if source = "" then (existing.filter (· ≠ "")).getD "unknown" else source
  | none => (existing.filter (· ≠ "")).getD "unknown"

/-- `register_app`: the version it returns and the tables after it. -/
def registerApp
    (manifest : Manifest) (source : Option String) (labels : Option Dict)
    (expected : Option Int) (updatedAt : String)
    (tables : Tables) : Except RegistryConflict (Int × Tables) :=
  let row := tables.apps.find? manifest.appName
  let current := (row.map AppRow.resourceVersion).getD 0
  (checkVersion manifest.appName expected current).map fun _ =>
    let labelsValue := labels.getD ((row.map fun row => storedLabels row.labels).getD [])
    (nextVersion current,
      { tables with
        apps := tables.apps.set manifest.appName
          { specHash := manifest.specHash
            spec := manifest.spec
            source := sourceValue source (row.map AppRow.source)
            labels := .dict labelsValue
            updatedAt := updatedAt
            resourceVersion := nextVersion current
            positive := one_le_nextVersion current } })

/-- `delete_registered_app`: whether there was a row, and the tables after it. -/
def deleteRegisteredApp
    (appName : String) (expected : Option Int)
    (tables : Tables) : Except RegistryConflict (Bool × Tables) :=
  let row := tables.apps.find? appName
  let current := (row.map AppRow.resourceVersion).getD 0
  (checkVersion appName expected current).map fun _ =>
    (row.isSome, { tables with apps := tables.apps.drop appName })

/-- `_authority_object_conflict_key`. -/
def conflictKey (key : ObjectKey) : String :=
  "/".intercalate [if key.group = "" then "core" else key.group, key.version, key.resource,
      if key.namespaceKey = "" then "_cluster" else key.namespaceKey, key.name]

/-- What `register_authority_object` writes.  A missing dictionary is an empty
one. -/
structure ObjectContent where
  kind : String
  metadata : Dict
  spec : Dict
  status : Dict

def registerAuthorityObject
    (key : ObjectKey) (content : ObjectContent) (expected : Option Int) (updatedAt : String)
    (tables : Tables) : Except RegistryConflict (Int × Tables) :=
  let current := ((tables.objects.find? key).map ObjectRow.resourceVersion).getD 0
  (checkVersion (conflictKey key) expected current).map fun _ =>
    (nextVersion current,
      { tables with
        objects := tables.objects.set key
          { kind := content.kind
            metadata := content.metadata
            spec := content.spec
            status := content.status
            updatedAt := updatedAt
            resourceVersion := nextVersion current
            positive := one_le_nextVersion current } })

def deleteAuthorityObject
    (key : ObjectKey) (expected : Option Int)
    (tables : Tables) : Except RegistryConflict (Bool × Tables) :=
  let row := tables.objects.find? key
  let current := (row.map ObjectRow.resourceVersion).getD 0
  (checkVersion (conflictKey key) expected current).map fun _ =>
    (row.isSome, { tables with objects := tables.objects.drop key })

/-! ## Calls -/

/-- A registered application or an authority object. -/
inductive Target
  | app (appName : String)
  | object (key : ObjectKey)
  deriving DecidableEq

/-- The version that a read of the object returns. -/
def Tables.version? (tables : Tables) : Target → Option Int
  | .app appName => (tables.apps.find? appName).map AppRow.resourceVersion
  | .object key => (tables.objects.find? key).map ObjectRow.resourceVersion

inductive Call
  | registerApp (manifest : Manifest) (source : Option String) (labels : Option Dict)
      (expected : Option Int) (updatedAt : String)
  | deleteRegisteredApp (appName : String) (expected : Option Int)
  | registerAuthorityObject (key : ObjectKey) (content : ObjectContent)
      (expected : Option Int) (updatedAt : String)
  | deleteAuthorityObject (key : ObjectKey) (expected : Option Int)

namespace Call

def target : Call → Target
  | .registerApp manifest _ _ _ _ => .app manifest.appName
  | .deleteRegisteredApp appName _ => .app appName
  | .registerAuthorityObject key _ _ _ => .object key
  | .deleteAuthorityObject key _ => .object key

def expected : Call → Option Int
  | .registerApp _ _ _ expected _ => expected
  | .deleteRegisteredApp _ expected => expected
  | .registerAuthorityObject _ _ expected _ => expected
  | .deleteAuthorityObject _ expected => expected

/-- Whether the call writes its object, rather than deleting it. -/
def isRegister : Call → Bool
  | .registerApp _ _ _ _ _ => true
  | .deleteRegisteredApp _ _ => false
  | .registerAuthorityObject _ _ _ _ => true
  | .deleteAuthorityObject _ _ => false

def run : Call → Tables → Except RegistryConflict Tables
  | .registerApp manifest source labels expected updatedAt, tables =>
      (Registry.registerApp manifest source labels expected updatedAt tables).map Prod.snd
  | .deleteRegisteredApp appName expected, tables =>
      (Registry.deleteRegisteredApp appName expected tables).map Prod.snd
  | .registerAuthorityObject key content expected updatedAt, tables =>
      (Registry.registerAuthorityObject key content expected updatedAt tables).map Prod.snd
  | .deleteAuthorityObject key expected, tables =>
      (Registry.deleteAuthorityObject key expected tables).map Prod.snd

/-- The call raises no conflict. -/
def Succeeds (call : Call) (tables : Tables) : Prop :=
  ∃ after, call.run tables = .ok after

/-- The tables after the call; a conflict leaves them as they are. -/
def after (call : Call) (tables : Tables) : Tables :=
  match call.run tables with
  | .ok after => after
  | .error _ => tables

end Call

def Tables.afterAll (tables : Tables) (calls : List Call) : Tables :=
  calls.foldl (fun tables call => call.after tables) tables

/-- The version that a call compares with the one it expects. -/
def Tables.currentVersion (tables : Tables) (target : Target) : Int :=
  (tables.version? target).getD 0

/-! ## What a call does -/

/-- The check passes exactly if the expected version, when there is one, is the
current one. -/
theorem checkVersion_eq_ok_iff (name : String) (expected : Option Int) (current : Int) :
    checkVersion name expected current = .ok () ↔ ∀ version ∈ expected, current = version := by
  cases expected with
  | none => simp [checkVersion]
  | some version => by_cases same : current = version <;> simp [checkVersion, same]

/-- What a call makes of its object when its check passes. -/
def Call.newVersion (call : Call) (tables : Tables) : Option Int :=
  if call.isRegister then some (nextVersion (tables.currentVersion call.target)) else none

variable {call : Call} {tables : Tables}

/-- A call whose check passes succeeds, writes or deletes its object, and leaves
the others. -/
theorem Call.run_of_check
    (check : ∀ version ∈ call.expected, tables.currentVersion call.target = version) :
    ∃ after, call.run tables = .ok after ∧ ∀ target, after.version? target =
      if call.target = target then call.newVersion tables else tables.version? target := by
  cases call with
  | registerApp manifest source labels expected updatedAt =>
      have passes := (checkVersion_eq_ok_iff manifest.appName expected _).mpr check
      simp only [Tables.currentVersion, Tables.version?, Call.target] at passes
      simp only [Call.run, Registry.registerApp, passes]
      refine ⟨_, rfl, ?_⟩
      rintro (appName | key)
      · by_cases same : manifest.appName = appName <;>
          simp [Tables.version?, Call.target, Call.newVersion, Call.isRegister,
            Tables.currentVersion, same]
      · simp [Tables.version?, Call.target]
  | deleteRegisteredApp appName expected =>
      have passes := (checkVersion_eq_ok_iff appName expected _).mpr check
      simp only [Tables.currentVersion, Tables.version?, Call.target] at passes
      simp only [Call.run, Registry.deleteRegisteredApp, passes]
      refine ⟨_, rfl, ?_⟩
      rintro (other | key)
      · by_cases same : appName = other <;>
          simp [Tables.version?, Call.target, Call.newVersion, Call.isRegister, same]
      · simp [Tables.version?, Call.target]
  | registerAuthorityObject key content expected updatedAt =>
      have passes := (checkVersion_eq_ok_iff (conflictKey key) expected _).mpr check
      simp only [Tables.currentVersion, Tables.version?, Call.target] at passes
      simp only [Call.run, Registry.registerAuthorityObject, passes]
      refine ⟨_, rfl, ?_⟩
      rintro (appName | other)
      · simp [Tables.version?, Call.target]
      · by_cases same : key = other <;>
          simp [Tables.version?, Call.target, Call.newVersion, Call.isRegister,
            Tables.currentVersion, same]
  | deleteAuthorityObject key expected =>
      have passes := (checkVersion_eq_ok_iff (conflictKey key) expected _).mpr check
      simp only [Tables.currentVersion, Tables.version?, Call.target] at passes
      simp only [Call.run, Registry.deleteAuthorityObject, passes]
      refine ⟨_, rfl, ?_⟩
      rintro (appName | other)
      · simp [Tables.version?, Call.target]
      · by_cases same : key = other <;>
          simp [Tables.version?, Call.target, Call.newVersion, Call.isRegister, same]

variable {version : Int}

/-- A call whose check fails raises a conflict that names the two versions. -/
theorem Call.run_of_mismatch
    (expects : call.expected = some version)
    (mismatch : tables.currentVersion call.target ≠ version) :
    ∃ name, call.run tables = .error ⟨name, version, tables.currentVersion call.target⟩ := by
  cases call with
  | registerApp manifest source labels expected updatedAt =>
      obtain rfl : expected = some version := expects
      simp only [Tables.currentVersion, Tables.version?, Call.target] at mismatch
      exact ⟨manifest.appName, by
        simp [Call.run, Registry.registerApp, checkVersion, mismatch, Except.map,
          Tables.currentVersion, Tables.version?, Call.target]⟩
  | deleteRegisteredApp appName expected =>
      obtain rfl : expected = some version := expects
      simp only [Tables.currentVersion, Tables.version?, Call.target] at mismatch
      exact ⟨appName, by
        simp [Call.run, Registry.deleteRegisteredApp, checkVersion, mismatch, Except.map,
          Tables.currentVersion, Tables.version?, Call.target]⟩
  | registerAuthorityObject key content expected updatedAt =>
      obtain rfl : expected = some version := expects
      simp only [Tables.currentVersion, Tables.version?, Call.target] at mismatch
      exact ⟨conflictKey key, by
        simp [Call.run, Registry.registerAuthorityObject, checkVersion, mismatch, Except.map,
          Tables.currentVersion, Tables.version?, Call.target]⟩
  | deleteAuthorityObject key expected =>
      obtain rfl : expected = some version := expects
      simp only [Tables.currentVersion, Tables.version?, Call.target] at mismatch
      exact ⟨conflictKey key, by
        simp [Call.run, Registry.deleteAuthorityObject, checkVersion, mismatch, Except.map,
          Tables.currentVersion, Tables.version?, Call.target]⟩

/-- A call succeeds exactly if the version it expects is the current one. -/
theorem Call.succeeds_iff (call : Call) (tables : Tables) :
    call.Succeeds tables ↔
      ∀ version ∈ call.expected, tables.currentVersion call.target = version := by
  constructor
  · rintro ⟨after, ran⟩ version expects
    by_contra mismatch
    obtain ⟨name, raised⟩ := Call.run_of_mismatch expects mismatch
    rw [raised] at ran
    cases ran
  · intro check
    obtain ⟨after, ran, -⟩ := Call.run_of_check check
    exact ⟨after, ran⟩

theorem Call.version?_after (succeeds : call.Succeeds tables) (target : Target) :
    (call.after tables).version? target =
      if call.target = target then call.newVersion tables else tables.version? target := by
  obtain ⟨after, ran, versions⟩ := Call.run_of_check ((call.succeeds_iff tables).mp succeeds)
  rw [Call.after, ran]
  exact versions target

/-- A conflict leaves the tables as they are. -/
theorem Call.after_of_conflict
    (conflict : ¬ call.Succeeds tables) : call.after tables = tables := by
  cases ran : call.run tables with
  | ok after => exact absurd ⟨after, ran⟩ conflict
  | error raised => rw [Call.after, ran]

variable {target : Target}

theorem Tables.one_le_of_version?
    (found : tables.version? target = some version) : 1 ≤ version := by
  cases target with
  | app appName =>
      obtain ⟨row, -, rfl⟩ := Option.map_eq_some_iff.mp found
      exact row.positive
  | object key =>
      obtain ⟨row, -, rfl⟩ := Option.map_eq_some_iff.mp found
      exact row.positive

/-! ## Histories -/

def Call.Writes (call : Call) (target : Target) (tables : Tables) : Prop :=
  call.target = target ∧ call.isRegister = true ∧ call.Succeeds tables

def Call.Deletes (call : Call) (target : Target) (tables : Tables) : Prop :=
  call.target = target ∧ call.isRegister = false ∧ call.Succeeds tables ∧
    (tables.version? target).isSome

def Sometime (does : Call → Target → Tables → Prop) (target : Target) :
    Tables → List Call → Prop
  | _, [] => False
  | tables, call :: rest => does call target tables ∨ Sometime does target (call.after tables) rest

/-- The object was written or deleted in the history. -/
def Changed (target : Target) (tables : Tables) (calls : List Call) : Prop :=
  Sometime Call.Writes target tables calls ∨ Sometime Call.Deletes target tables calls

/-- What one call does to an object that it does not delete. -/
theorem Call.version?_of_not_deletes
    (found : tables.version? target = some version) (kept : ¬ call.Deletes target tables) :
    ∃ later, (call.after tables).version? target = some later ∧ version ≤ later ∧
      (call.Writes target tables → version < later) := by
  by_cases succeeds : call.Succeeds tables
  · by_cases same : call.target = target
    · have writes : call.isRegister = true := by
        by_contra deletes
        exact kept ⟨same, by simpa using deletes, succeeds, by simp [found]⟩
      have current : tables.currentVersion target = version := by
        simp [Tables.currentVersion, found]
      refine ⟨nextVersion version, ?_, (lt_nextVersion version).le, fun _ => lt_nextVersion version⟩
      rw [Call.version?_after succeeds, if_pos same, Call.newVersion, if_pos writes, same, current]
    · refine ⟨version, ?_, le_rfl, fun writes => absurd writes.1 same⟩
      rw [Call.version?_after succeeds, if_neg same, found]
  · refine ⟨version, ?_, le_rfl, fun writes => absurd writes.2.2 succeeds⟩
    rw [Call.after_of_conflict succeeds, found]

/-- Along a history that does not delete the object its version grows with every
write. -/
theorem Tables.version?_afterAll
    {calls : List Call} (found : tables.version? target = some version)
    (kept : ¬ Sometime Call.Deletes target tables calls) :
    ∃ later, (tables.afterAll calls).version? target = some later ∧ version ≤ later ∧
      (Sometime Call.Writes target tables calls → version < later) := by
  induction calls generalizing tables version with
  | nil => exact ⟨version, found, le_rfl, False.elim⟩
  | cons call rest ih =>
      obtain ⟨first, others⟩ := not_or.mp kept
      obtain ⟨next, foundNext, grows, strict⟩ := Call.version?_of_not_deletes found first
      obtain ⟨later, foundLater, further, strictFurther⟩ := ih foundNext others
      refine ⟨later, foundLater, grows.trans further, ?_⟩
      rintro (now | afterwards)
      · exact (strict now).trans_le further
      · exact grows.trans_lt (strictFurther afterwards)

/-! ## Operations that name a version they have read -/

/-- An operation that names the version it has read succeeds only on an object
that was not changed since, exactly if the object was not deleted since or its
present version is another one. -/
theorem succeeds_only_unchanged_iff
    (tables : Tables) (target : Target) (version : Int) (between : List Call) (call : Call)
    (read : tables.version? target = some version) (same : call.target = target)
    (expects : call.expected = some version) :
    (call.Succeeds (tables.afterAll between) → ¬ Changed target tables between) ↔
      ¬ (Sometime Call.Deletes target tables between ∧
        (tables.afterAll between).version? target = some version) := by
  have positive := Tables.one_le_of_version? read
  have succeeds_of_current : (tables.afterAll between).version? target = some version →
      call.Succeeds (tables.afterAll between) := by
    intro current
    rw [Call.succeeds_iff, expects, same]
    rintro other ⟨⟩
    simp [Tables.currentVersion, current]
  constructor
  · rintro unchanged ⟨deleted, current⟩
    exact unchanged (succeeds_of_current current) (.inr deleted)
  · intro fresh succeeds
    have compared := (Call.succeeds_iff _ _).mp succeeds version expects
    rw [same] at compared
    have current : (tables.afterAll between).version? target = some version := by
      cases found : (tables.afterAll between).version? target with
      | none =>
          simp only [Tables.currentVersion, found, Option.getD_none] at compared
          omega
      | some present =>
          simp only [Tables.currentVersion, found, Option.getD_some] at compared
          rw [compared]
    have kept : ¬ Sometime Call.Deletes target tables between := fun deleted =>
      fresh ⟨deleted, current⟩
    obtain ⟨later, found, -, strict⟩ := Tables.version?_afterAll read kept
    rintro (written | deleted)
    · have grown := strict written
      rw [current] at found
      obtain rfl := Option.some.inj found
      exact lt_irrefl _ grown
    · exact kept deleted

/-! ## A deleted and re-created application -/

/-- The first manifest of an application. -/
def sampleManifest : Manifest := ⟨"web", .dict [], "hash"⟩

/-- The registry after the first registration of the application. -/
def sampleTables : Tables where
  apps := Dictionary.empty.set "web"
    ⟨"hash", .dict [], "cli", .dict [], "2026-01-01T00:00:00+00:00", 1, le_rfl⟩
  objects := Dictionary.empty

/-- The application is deleted and registered again. -/
def sampleHistory : List Call :=
  [.deleteRegisteredApp "web" none,
    .registerApp sampleManifest none none none "2026-01-02T00:00:00+00:00"]

/-- A deletion that names the version read before that. -/
def staleDeletion : Call := .deleteRegisteredApp "web" (some 1)

theorem sampleTables_version? : sampleTables.version? (.app "web") = some 1 := by
  decide +kernel

/-- An operation can succeed on an object that was deleted and re-created. -/
theorem not_succeeds_only_unchanged :
    ¬ ∀ (tables : Tables) (target : Target) (version : Int) (between : List Call) (call : Call),
      tables.version? target = some version → call.target = target →
      call.expected = some version →
      call.Succeeds (tables.afterAll between) → ¬ Changed target tables between := by
  intro unchanged
  have succeeds : staleDeletion.Succeeds (sampleTables.afterAll sampleHistory) := by
    rw [Call.succeeds_iff]
    rintro version ⟨⟩
    decide +kernel
  refine unchanged sampleTables (.app "web") 1 sampleHistory staleDeletion
    sampleTables_version? rfl rfl succeeds (.inr (.inl ⟨rfl, rfl, ⟨_, rfl⟩, ?_⟩))
  rw [sampleTables_version?]
  rfl

/-- Between a read and a deletion nothing else happens. -/
theorem succeeds_only_unchanged_immediately :
    sampleTables.version? (.app "web") = some 1 ∧
      ((staleDeletion.Succeeds (sampleTables.afterAll []) →
          ¬ Changed (.app "web") sampleTables []) ↔
        ¬ (Sometime Call.Deletes (.app "web") sampleTables [] ∧
          (sampleTables.afterAll []).version? (.app "web") = some 1)) :=
  ⟨sampleTables_version?, succeeds_only_unchanged_iff sampleTables (.app "web") 1 []
    staleDeletion sampleTables_version? rfl rfl⟩

end Registry
end K1s
