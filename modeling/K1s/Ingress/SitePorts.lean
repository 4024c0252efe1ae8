import K1s.Etcd.Listing
import K1s.Lib.Program
import K1s.Py.Json

/-!
# The core proxy ports of the sites

A site has an ingress endpoint with the port that the core proxy listens on for it.
A port comes from the caller of `upsert_site_ingress_endpoint`, or
`ensure_site_ingress_port` takes the first one of a range that is not used.

The SQLite table has a unique index on the ports, so that a statement which would
give a port to a second site fails.  The etcd store writes what it is told.  The
main result says that no two sites have one port in SQLite in any interleaving of
the statements, and in etcd exactly as long as nobody writes a port that another
site has.
-/

namespace K1s
namespace Ingress

open Py Program

/-! ## Endpoints -/

/-- An endpoint as it is stored.  Times are in microseconds. -/
structure SiteRecord where
  siteId : String
  mode : String
  coreProxyPort : Option Int
  publicUrls : List Json
  quarantineUntil : Option Int
  createdAt : Int
  updatedAt : Int
  deriving DecidableEq

/-- The calls that write an endpoint, with the time of the call. -/
inductive SiteCall
  /-- `upsert_site_ingress_endpoint`. -/
  | upsert
      (siteId mode : String)
      (coreProxyPort : Option Int)
      (publicUrls : List Json)
      (quarantineUntil : Option Int)
      (now : Int)
  /-- `ensure_site_ingress_port`. -/
  | ensure (siteId : String) (portMin portMax : Int) (mode : String) (now : Int)

def portRange (portMin portMax : Int) : List Int :=
  (List.range (portMax + 1 - portMin).toNat).map fun offset => portMin + offset

section Ports

variable {κ : Type} [DecidableEq κ]

/-- No two sites have the same port. -/
def PortsApart (records : Dictionary κ SiteRecord) : Prop :=
  ∀ first second record other port, records.find? first = some record →
    records.find? second = some other → record.coreProxyPort = some port →
    other.coreProxyPort = some port → first = second

def PortFree (records : Dictionary κ SiteRecord) (key : κ) (port : Int) : Prop :=
  ∀ other record, records.find? other = some record →
    record.coreProxyPort = some port → other = key

/-- Writing a record keeps the ports apart exactly when its port is free. -/
theorem portsApart_set_iff
    {records : Dictionary κ SiteRecord} (apart : PortsApart records) (key : κ)
    (record : SiteRecord) :
    PortsApart (records.set key record) ↔
      ∀ port, record.coreProxyPort = some port → PortFree records key port := by
  constructor
  · intro apartAfter port named other found isFound has
    by_cases same : other = key
    · exact same
    · refine apartAfter other key found record port ?_ ?_ has named
      · rw [Dictionary.find?_set, if_neg (Ne.symm same), isFound]
      · rw [Dictionary.find?_set, if_pos rfl]
  · intro free first second one two port isFirst isSecond firstHas secondHas
    rw [Dictionary.find?_set] at isFirst isSecond
    split at isFirst
    · next firstKey =>
        obtain rfl := Option.some.inj isFirst
        split at isSecond
        · next secondKey => exact firstKey.symm.trans secondKey
        · exact firstKey.symm.trans (free port firstHas second two isSecond secondHas).symm
    · split at isSecond
      · next secondKey =>
          obtain rfl := Option.some.inj isSecond
          exact (free port secondHas first one isFirst firstHas).trans secondKey
      · exact apart first second one two port isFirst isSecond firstHas secondHas

end Ports

/-! ## The SQLite store -/

/-- The table `site_ingress_endpoints`. -/
abbrev SiteTable := Dictionary String SiteRecord

/-- The statements of the SQLite calls.  The writes are each committed with the
statement. -/
inductive SiteStatement
  | selectSite (siteId : String)
  | selectPorts
  | insert (record : SiteRecord)
  /-- The update of `upsert_site_ingress_endpoint`. -/
  | updateEndpoint
      (siteId mode : String)
      (coreProxyPort : Option Int)
      (publicUrls : List Json)
      (quarantineUntil : Option Int)
      (now : Int)
  /-- The update of `ensure_site_ingress_port`. -/
  | updatePort (siteId mode : String) (coreProxyPort : Int) (now : Int)

/-- The reply to a statement; `false` for an integrity error. -/
def SiteStatement.Reply : SiteStatement → Type
  | .selectSite _ => Option SiteRecord
  | .selectPorts => List Int
  | .insert _ | .updateEndpoint .. | .updatePort .. => Bool

/-- Another row has the port. -/
def portTaken (table : SiteTable) (siteId : String) (port : Option Int) : Bool :=
  match port with
  | none => false
  | some port => table.entries.any fun row =>
      decide (row.1 ≠ siteId) && decide (row.2.coreProxyPort = some port)

/-- An update of one row, refused by the unique index if another row has the port. -/
def updateSite
    (table : SiteTable) (siteId : String)
    (change : SiteRecord → SiteRecord) : Bool × SiteTable :=
  match table.find? siteId with
  | none => (true, table)
  | some row =>
      if portTaken table siteId (change row).coreProxyPort then (false, table)
      else (true, table.set siteId (change row))

def SiteStatement.execute :
    (statement : SiteStatement) → SiteTable → statement.Reply × SiteTable
  | .selectSite siteId, table => (table.find? siteId, table)
  | .selectPorts, table => (table.entries.filterMap fun row => row.2.coreProxyPort, table)
  | .insert record, table =>
      if (table.find? record.siteId).isSome ||
          portTaken table record.siteId record.coreProxyPort then (false, table)
      else (true, table.set record.siteId record)
  | .updateEndpoint siteId mode coreProxyPort publicUrls quarantineUntil now, table =>
      updateSite table siteId fun row =>
        { row with
          mode := mode
          coreProxyPort := coreProxyPort
          publicUrls := publicUrls
          quarantineUntil := quarantineUntil
          updatedAt := now }
  | .updatePort siteId mode coreProxyPort now, table =>
      updateSite table siteId fun row =>
        { row with mode := mode, coreProxyPort := some coreProxyPort, updatedAt := now }

/-- A SQLite call in progress. -/
abbrev SqliteSiteProgram := Program SiteStatement SiteStatement.Reply

/-- The loop of `ensure_site_ingress_port` over the ports that are not used. -/
def tryPorts (siteId mode : String) (now : Int) (known : Bool) :
    List Int → SqliteSiteProgram (Option Int)
  | [] => .raise
  | port :: rest =>
      if known then
        .perform (.updatePort siteId mode port now) fun (done : Bool) =>
          if done then .done (some port) else tryPorts siteId mode now known rest
      else
        .perform (.insert ⟨siteId, mode, some port, [], none, now, now⟩) fun (done : Bool) =>
          if done then .done (some port) else tryPorts siteId mode now known rest

def sqliteSiteCall : SiteCall → SqliteSiteProgram (Option Int)
  | .upsert siteId mode coreProxyPort publicUrls quarantineUntil now =>
      .perform (.selectSite siteId) fun (row : Option SiteRecord) =>
        match row with
        | some existing =>
            .perform (.updateEndpoint siteId mode
                (coreProxyPort.or existing.coreProxyPort) publicUrls quarantineUntil now)
              fun (done : Bool) => if done then .done none else .raise
        | none =>
            .perform (.insert ⟨siteId, mode, coreProxyPort, publicUrls, quarantineUntil, now, now⟩)
              fun (done : Bool) => if done then .done none else .raise
  | .ensure siteId portMin portMax mode now =>
      if portMax < portMin then .raise
      else
        .perform (.selectSite siteId) fun (row : Option SiteRecord) =>
          match row.bind SiteRecord.coreProxyPort with
          | some port => .done (some port)
          | none =>
              .perform .selectPorts fun (used : List Int) =>
                tryPorts siteId mode now row.isSome
                  ((portRange portMin portMax).filter fun port => port ∉ used)

abbrev SqliteSitePool := Pool SiteTable SiteStatement SiteStatement.Reply (Option Int)

def SqliteSitePool.step : SqliteSitePool → PoolAction SiteCall → Option SqliteSitePool :=
  Pool.step SiteStatement.execute sqliteSiteCall

theorem portFree_of_not_portTaken
    {table : SiteTable} {siteId : String} {given : Option Int}
    (untaken : portTaken table siteId given ≠ true) (port : Int)
    (named : given = some port) : PortFree table siteId port := by
  intro other record found has
  by_contra apart
  apply untaken
  rw [named, portTaken, List.any_eq_true]
  refine ⟨(other, record), (table.find?_eq_some_iff other record).mp found, ?_⟩
  simp [apart, has]

theorem portsApart_updateSite
    {table : SiteTable} (apart : PortsApart table) (siteId : String)
    (change : SiteRecord → SiteRecord) : PortsApart (updateSite table siteId change).2 := by
  unfold updateSite
  split
  · exact apart
  · split
    · exact apart
    · next untaken =>
        exact (portsApart_set_iff apart _ _).mpr (portFree_of_not_portTaken untaken)

theorem SiteStatement.portsApart_execute
    (statement : SiteStatement) {table : SiteTable}
    (apart : PortsApart table) : PortsApart (statement.execute table).2 := by
  cases statement with
  | selectSite => exact apart
  | selectPorts => exact apart
  | insert record =>
      unfold SiteStatement.execute
      dsimp only
      split
      · exact apart
      · next allowed =>
          rw [Bool.or_eq_true, not_or] at allowed
          exact (portsApart_set_iff apart _ _).mpr (portFree_of_not_portTaken allowed.2)
  | updateEndpoint => exact portsApart_updateSite apart _ _
  | updatePort => exact portsApart_updateSite apart _ _

theorem sqlitePortsApart_of_run
    {table : SiteTable} {actions : List (PoolAction SiteCall)} {reached : SqliteSitePool}
    (initial : PortsApart table)
    (ran : Machine.run SqliteSitePool.step (Pool.idle table) actions = some reached) :
    PortsApart reached.state := by
  have keeps : ∀ (pool : SqliteSitePool) action next, PortsApart pool.state →
      pool.step action = some next → PortsApart next.state := by
    intro pool action next apart stepped
    rcases Pool.step_cases stepped with ⟨_, _, -, -, rfl⟩ | ⟨_, operation, _, -, -, rfl⟩
    · exact apart
    · exact operation.portsApart_execute apart
  exact Machine.invariant_of_run keeps initial ran

/-! ## The etcd store -/

/-- `_k("ingress", "sites", site_id)`. -/
def siteKey (root siteId : String) : Etcd.Key :=
  Etcd.k root ["ingress", "sites", siteId]

/-- The records of the sites under their keys. -/
structure EtcdSites (root : String) where
  records : Dictionary Etcd.Key SiteRecord
  keyed : ∀ key record, records.find? key = some record → key = siteKey root record.siteId

/-- `_put_json` at the key of the site. -/
def EtcdSites.put {root : String} (sites : EtcdSites root) (record : SiteRecord) :
    EtcdSites root where
  records := sites.records.set (siteKey root record.siteId) record
  keyed := by
    intro key found same
    rw [Dictionary.find?_set] at same
    split at same
    · next equal =>
        obtain rfl := Option.some.inj same
        exact equal.symm
    · exact sites.keyed key found same

/-- A store without sites. -/
def EtcdSites.empty (root : String) : EtcdSites root where
  records := .empty
  keyed := by simp

def EtcdSites.list {root : String} (sites : EtcdSites root) : List SiteRecord :=
  (Etcd.rowsUnder sites.records (Etcd.k root ["ingress", "sites"])).map Prod.snd

/-- The first port of the range that no listed record has. -/
def firstUnused (portMin portMax : Int) (listed : List SiteRecord) : Option Int :=
  (portRange portMin portMax).find? fun port =>
    port ∉ listed.filterMap SiteRecord.coreProxyPort

/-- The requests of the etcd calls. -/
inductive SiteRequest
  | get (siteId : String)
  | list
  | put (record : SiteRecord)

def SiteRequest.Reply : SiteRequest → Type
  | .get _ => Option SiteRecord
  | .list => List SiteRecord
  | .put _ => Unit

def SiteRequest.execute (root : String) :
    (request : SiteRequest) → EtcdSites root → request.Reply × EtcdSites root
  | .get siteId, sites => (sites.records.find? (siteKey root siteId), sites)
  | .list, sites => (sites.list, sites)
  | .put record, sites => ((), sites.put record)

/-- An etcd call in progress. -/
abbrev EtcdSiteProgram := Program SiteRequest SiteRequest.Reply

/-- `upsert_site_ingress_endpoint`. -/
def upsertSiteEndpoint
    (siteId mode : String) (coreProxyPort : Option Int) (publicUrls : List Json)
    (quarantineUntil : Option Int) (now : Int) : EtcdSiteProgram (Option Int) :=
  .perform (.get siteId) fun (existing : Option SiteRecord) =>
    .perform (.put
        { siteId := siteId
          mode := mode
          coreProxyPort := coreProxyPort.or (existing.bind SiteRecord.coreProxyPort)
          publicUrls := publicUrls
          quarantineUntil := quarantineUntil
          createdAt := (existing.map SiteRecord.createdAt).getD now
          updatedAt := now })
      fun _ => .done none

/-- The end of `ensure_site_ingress_port`, with the port that was found. -/
def putPort
    (siteId mode : String) (now : Int)
    (existing : Option SiteRecord) : Option Int → EtcdSiteProgram (Option Int)
  | none => .raise
  | some port =>
      .perform (.put
          { siteId := siteId
            mode := mode
            coreProxyPort := some port
            publicUrls := (existing.map SiteRecord.publicUrls).getD []
            quarantineUntil := existing.bind SiteRecord.quarantineUntil
            createdAt := (existing.map SiteRecord.createdAt).getD now
            updatedAt := now })
        fun _ => .done (some port)

/-- `ensure_site_ingress_port` after it has read the record of the site. -/
def allocatePort
    (siteId : String) (portMin portMax : Int) (mode : String) (now : Int)
    (existing : Option SiteRecord) : EtcdSiteProgram (Option Int) :=
  match existing.bind SiteRecord.coreProxyPort with
  | some port => .done (some port)
  | none =>
      .perform .list fun listed =>
        putPort siteId mode now existing (firstUnused portMin portMax listed)

/-- `ensure_site_ingress_port`. -/
def ensureSitePort
    (siteId : String) (portMin portMax : Int) (mode : String)
    (now : Int) : EtcdSiteProgram (Option Int) :=
  if portMax < portMin then .raise
  else .perform (.get siteId) (allocatePort siteId portMin portMax mode now)

def etcdSiteCall : SiteCall → EtcdSiteProgram (Option Int)
  | .upsert siteId mode coreProxyPort publicUrls quarantineUntil now =>
      upsertSiteEndpoint siteId mode coreProxyPort publicUrls quarantineUntil now
  | .ensure siteId portMin portMax mode now => ensureSitePort siteId portMin portMax mode now

section Etcd

variable (root : String)

abbrev EtcdSitePool := Pool (EtcdSites root) SiteRequest SiteRequest.Reply (Option Int)

/-- One action of the calls. -/
def EtcdSitePool.step :
    EtcdSitePool root → PoolAction SiteCall → Option (EtcdSitePool root) :=
  Pool.step (SiteRequest.execute root) etcdSiteCall

/-- The ports are apart after the action. -/
def EtcdSitePool.StaysApart (pool : EtcdSitePool root) (action : PoolAction SiteCall) : Prop :=
  ∀ next, pool.step root action = some next → PortsApart next.state.records

def EtcdSitePool.PutsFree (pool : EtcdSitePool root) (action : PoolAction SiteCall) : Prop :=
  ∀ thread record port, action = .advance thread →
    pool.pending thread = some (.put record) → record.coreProxyPort = some port →
      PortFree pool.state.records (siteKey root record.siteId) port

/-- One call, with no other call at the same time. -/
def EtcdSites.call (sites : EtcdSites root) (call : SiteCall) : Option (EtcdSites root) :=
  some ((etcdSiteCall call).runAlone (SiteRequest.execute root) sites).2

/-- The ports are apart after the call. -/
def EtcdSites.StaysApart (sites : EtcdSites root) (call : SiteCall) : Prop :=
  ∀ next, sites.call root call = some next → PortsApart next.records

def EtcdSites.NamesFree (sites : EtcdSites root) : SiteCall → Prop
  | .upsert siteId _ coreProxyPort _ _ _ =>
      ∀ port, coreProxyPort = some port → PortFree sites.records (siteKey root siteId) port
  | .ensure .. => True

variable {root}

theorem mem_list
    {sites : EtcdSites root} {key : Etcd.Key} {record : SiteRecord}
    (found : sites.records.find? key = some record) : record ∈ sites.list := by
  refine List.mem_map.mpr ⟨(key, record), ?_, rfl⟩
  refine (Etcd.mem_rowsUnder _ _ _ _).mpr ⟨found, ?_⟩
  rw [sites.keyed key record found, siteKey]
  exact ⟨_, (Etcd.k_append root "ingress" ["sites"] [record.siteId] (by decide)).symm⟩

/-- A request leaves the ports apart exactly when it puts no port of another site. -/
theorem portsApart_execute_iff
    (request : SiteRequest) {sites : EtcdSites root} (apart : PortsApart sites.records) :
    PortsApart (request.execute root sites).2.records ↔
      ∀ record port, request = .put record → record.coreProxyPort = some port →
        PortFree sites.records (siteKey root record.siteId) port := by
  cases request with
  | get siteId => exact ⟨nofun, fun _ => apart⟩
  | list => exact ⟨nofun, fun _ => apart⟩
  | put record =>
      refine (portsApart_set_iff apart (siteKey root record.siteId) record).trans ?_
      constructor
      · rintro free other port same named
        cases same
        exact free port named
      · exact fun free port named => free record port rfl named

/-- An allocated port is free when nothing happens after the listing. -/
theorem portFree_of_firstUnused
    {sites : EtcdSites root} {portMin portMax port : Int}
    (chosen : firstUnused portMin portMax sites.list = some port)
    (key : Etcd.Key) : PortFree sites.records key port := by
  intro other record found has
  have unused := List.find?_some chosen
  rw [decide_eq_true_eq] at unused
  exact absurd (List.mem_filterMap.mpr ⟨record, mem_list found, has⟩) unused

/-- An allocation alone keeps the ports apart. -/
theorem portsApart_ensureSitePort
    {sites : EtcdSites root} (apart : PortsApart sites.records) (siteId : String)
    (portMin portMax : Int) (mode : String) (now : Int) :
    PortsApart ((ensureSitePort siteId portMin portMax mode now).runAlone
      (SiteRequest.execute root) sites).2.records := by
  unfold ensureSitePort
  split
  · exact apart
  · change PortsApart ((allocatePort siteId portMin portMax mode now
      (sites.records.find? (siteKey root siteId))).runAlone
        (SiteRequest.execute root) sites).2.records
    unfold allocatePort
    split
    · exact apart
    · change PortsApart ((putPort siteId mode now (sites.records.find? (siteKey root siteId))
        (firstUnused portMin portMax sites.list)).runAlone
          (SiteRequest.execute root) sites).2.records
      cases chosen : firstUnused portMin portMax sites.list with
      | none => exact apart
      | some port =>
          refine (portsApart_set_iff apart (siteKey root siteId) _).mpr ?_
          intro other same
          obtain rfl := Option.some.inj same
          exact portFree_of_firstUnused chosen _

/-- A call alone keeps the ports apart exactly when it names no port of another
site. -/
theorem staysApart_iff
    {sites : EtcdSites root} (apart : PortsApart sites.records)
    (call : SiteCall) : sites.StaysApart root call ↔ sites.NamesFree root call := by
  have shown : sites.StaysApart root call ↔ PortsApart
      ((etcdSiteCall call).runAlone (SiteRequest.execute root) sites).2.records :=
    ⟨fun stays => stays _ rfl, fun apart _ same => Option.some.inj same ▸ apart⟩
  rw [shown]
  cases call with
  | upsert siteId mode coreProxyPort publicUrls quarantineUntil now =>
      refine (portsApart_set_iff apart (siteKey root siteId) _).trans ?_
      dsimp only
      refine forall_congr' fun port => ?_
      cases coreProxyPort with
      | some given => rfl
      | none =>
          refine ⟨fun _ => nofun, fun _ has other record found otherHas => ?_⟩
          rw [Option.none_or] at has
          obtain ⟨existing, present, own⟩ := Option.bind_eq_some_iff.mp has
          exact apart other _ record existing port found present otherHas own
  | ensure siteId portMin portMax mode now =>
      exact iff_of_true (portsApart_ensureSitePort apart siteId portMin portMax mode now) trivial

/-- An action of interleaved calls keeps the ports apart exactly when it puts a port
that is free. -/
theorem EtcdSitePool.staysApart_iff
    {pool : EtcdSitePool root} (apart : PortsApart pool.state.records)
    (action : PoolAction SiteCall) : pool.StaysApart root action ↔ pool.PutsFree root action := by
  constructor
  · rintro stays thread record port rfl pending named
    rw [Pool.pending] at pending
    split at pending
    · next operation rest present =>
        obtain rfl := Option.some.inj pending
        have after := stays _ (by rw [EtcdSitePool.step, Pool.step, present])
        exact (portsApart_execute_iff (.put record) apart).mp after record port rfl named
    · cases pending
  · intro free next stepped
    rcases Pool.step_cases stepped with
      ⟨_, _, -, -, rfl⟩ | ⟨thread, operation, rest, rfl, present, rfl⟩
    · exact apart
    · refine (portsApart_execute_iff operation apart).mpr ?_
      rintro record port rfl named
      exact free thread record port rfl (by rw [Pool.pending, present]) named

end Etcd

open Machine (Along)

/-- No two sites ever have one port: in SQLite in every interleaving of the
statements; in etcd, with one call after another, exactly when no caller names a port
of another site, and with interleaved calls exactly when every port is free when it
is put. -/
theorem sitePorts_apart_iff
    (root : String) (calls : List SiteCall) (actions : List (PoolAction SiteCall)) :
    (∀ reached, Machine.run SqliteSitePool.step (Pool.idle .empty) actions = some reached →
      PortsApart reached.state) ∧
    (Along (EtcdSites.call root) (EtcdSites.StaysApart root) (.empty root) calls ↔
      Along (EtcdSites.call root) (EtcdSites.NamesFree root) (.empty root) calls) ∧
    (Along (EtcdSitePool.step root) (EtcdSitePool.StaysApart root)
        (Pool.idle (.empty root)) actions ↔
      Along (EtcdSitePool.step root) (EtcdSitePool.PutsFree root)
        (Pool.idle (.empty root)) actions) := by
  have empty : PortsApart (EtcdSites.empty root).records := by
    intro first second record other port found
    cases found
  refine ⟨fun reached ran => sqlitePortsApart_of_run ?_ ran, ?_, ?_⟩
  · intro first second record other port found
    cases found
  · have keeps : ∀ (sites : EtcdSites root) call next, PortsApart sites.records →
        sites.StaysApart root call → sites.call root call = some next → PortsApart next.records :=
      fun _ _ next _ stays stepped => stays next stepped
    exact Machine.along_iff_of_step keeps (fun _ call apart => staysApart_iff apart call)
      empty calls
  · have keeps : ∀ (pool : EtcdSitePool root) action next, PortsApart pool.state.records →
        pool.StaysApart root action → pool.step root action = some next →
          PortsApart next.state.records :=
      fun _ _ next _ stays stepped => stays next stepped
    have same : ∀ (pool : EtcdSitePool root) action, PortsApart pool.state.records →
        (pool.StaysApart root action ↔ pool.PutsFree root action) :=
      fun _ action apart => EtcdSitePool.staysApart_iff apart action
    exact Machine.along_iff_of_step keeps same empty actions

/-- Two sites are given the same port by their callers. -/
def samePortTwice : List SiteCall :=
  [.upsert "a" "core-proxy" (some 18080) [] none 0,
    .upsert "b" "core-proxy" (some 18080) [] none 0]

theorem not_staysApart_samePortTwice :
    ¬ Along (EtcdSites.call "k1s") (EtcdSites.StaysApart "k1s") (.empty "k1s")
      samePortTwice := by
  intro along
  have both := ((along.2 _ rfl).1 _ rfl) (siteKey "k1s" "a") (siteKey "k1s" "b") _ _ 18080
    rfl rfl rfl rfl
  exact absurd both (by decide)

end Ingress
end K1s
