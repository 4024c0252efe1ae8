import K1s.Etcd.Store

/-!
# Records of one application

The operations of `EtcdStateStore` that are scoped to an application name: the
pods, the placements and the volume attachments of an application, and
`delete_app_state`.  Most of them read or delete the range of a key prefix that
ends with the application's name.

The main result says for which pairs of names the operations on one leave the
records of the other alone.
-/

namespace K1s
namespace Etcd

open Py

variable (root : String)

/-! ## Operations -/

/-- One entry of `list_pods`.  `finishedAt` is the stored text. -/
structure PodStatus where
  podName : String
  ready : Bool
  live : Bool
  status : String
  endpoint : Json
  readinessMessage : String
  livenessMessage : String
  exitCode : Json
  finishedAt : Json
  deriving DecidableEq

/-- The entry of a stored pod. -/
def PodStatus.ofRecord (record : Dict) : PodStatus where
  podName := (field record "pod_name" (.str "")).toStr
  ready := (field record "ready" (.bool false)).truthy
  live := (field record "live" (.bool false)).truthy
  status := (field record "status" (.str "unknown")).toStr
  endpoint := Dict.get record "endpoint"
  readinessMessage := (field record "readiness_message" (.str "")).toStr
  livenessMessage := (field record "liveness_message" (.str "")).toStr
  exitCode := Dict.get record "exit_code"
  finishedAt := Dict.get record "finished_at"

def listPods (app : String) (store : Store) : List PodStatus :=
  ((store.listPrefix (k root ["pods", app])).map fun row =>
    PodStatus.ofRecord row.2.payload).mergeSort fun first second =>
      decide (first.podName ≤ second.podName)

/-- `set_pod_nodes`: the old placements are deleted, then every new one is
written.  `now` is the time of the call. -/
def setPodNodes
    (app : String) (placements : List (String × String)) (now : String)
    (store : Store) : Store :=
  placements.foldl (fun store placement =>
      store.putJson (k root ["pod_nodes", app, placement.1])
        [("pod_name", .str placement.1), ("node_id", .str placement.2), ("updated_at", .str now)])
    (store.deletePrefix (k root ["pod_nodes", app]))

/-- One entry of `list_volume_attachments`.  `createdAt` is the stored text. -/
structure VolumeAttachment where
  appName : String
  volumeName : String
  nodeId : String
  retention : Json
  createdAt : Json
  deriving DecidableEq

/-- The entry of a stored attachment. -/
def VolumeAttachment.ofRecord (app : String) (record : Dict) : VolumeAttachment where
  appName := (field record "app_name" (.str app)).toStr
  volumeName := (field record "volume_name" (.str "")).toStr
  nodeId := (field record "node_id" (.str "")).toStr
  retention := Dict.get record "retention"
  createdAt := Dict.get record "created_at"

def listVolumeAttachments (app : String) (store : Store) : List VolumeAttachment :=
  (store.listPrefix (k root ["storage", "attachments", app])).map fun row =>
    VolumeAttachment.ofRecord app row.2.payload

def deleteVolumeAttachments (app : String) (store : Store) : Store :=
  store.deletePrefix (k root ["storage", "attachments", app])

def eventPrefix (app : String) : Key :=
  k root ["events", app] ++ ['/']

def deleteAppState (app : String) (purgeHistory : Bool) (store : Store) : Store :=
  let deleted :=
    ((((store.deletePrefix (k root ["pods", app])).deletePrefix (k root ["pod_nodes", app])).delete
      (k root ["status", app])).deletePrefix
      (k root ["storage", "attachments", app]))
  if purgeHistory then
    (deleted.deletePrefix (eventPrefix root app)).deletePrefix (k root ["apps", app, "revisions"])
  else deleted

/-! ## The keys of an application's records -/

/-- The parts of the key space that hold records of applications. -/
inductive Area
  | pods
  | podNodes
  | status
  | probes
  | apps
  | events
  | attachments
  | canary
  | services
  | workloadMetrics
  deriving DecidableEq

/-- The first part of the keys of an area. -/
def Area.head : Area → String
  | .pods => "pods"
  | .podNodes => "pod_nodes"
  | .status => "status"
  | .probes => "probes"
  | .apps => "apps"
  | .events => "events"
  | .attachments => "storage"
  | .canary => "rollout"
  | .services => "services"
  | .workloadMetrics => "hpa"

/-- The other parts before the name of the application. -/
def Area.more : Area → List String
  | .attachments => ["attachments"]
  | .canary => ["canary"]
  | .workloadMetrics => ["workload_metrics"]
  | _ => []

/-- A number with zeros before it, as the timestamps in keys are written. -/
def padded (width number : Nat) : String :=
  String.ofList ((Nat.toDigits 10 number).leftpad width '0')

/-- The records that the store writes for an application. -/
inductive AppRecord
  | pod (podName : String)
  | podNode (podName : String)
  | status
  | probe (podName : String) (micros : Nat) (id : String)
  | revision (number : Int)
  | registry
  | event (micros : Nat) (id : String)
  | attachment (volumeName : String)
  | canary
  | service
  | serviceEndpoint (address : String)
  | workloadMetrics

def AppRecord.area : AppRecord → Area
  | .pod _ => .pods
  | .podNode _ => .podNodes
  | .status => .status
  | .probe _ _ _ => .probes
  | .revision _ => .apps
  | .registry => .apps
  | .event _ _ => .events
  | .attachment _ => .attachments
  | .canary => .canary
  | .service => .services
  | .serviceEndpoint _ => .services
  | .workloadMetrics => .workloadMetrics

/-- The parts after the name of the application. -/
def AppRecord.items : AppRecord → List String
  | .pod podName => [podName]
  | .podNode podName => [podName]
  | .status => []
  | .probe podName micros id => [podName, padded 20 micros, id]
  | .revision number => ["revisions", toString number]
  | .registry => ["registry"]
  | .event micros id => [padded 20 micros, id]
  | .attachment volumeName => [volumeName]
  | .canary => []
  | .service => []
  | .serviceEndpoint address => ["endpoints", address]
  | .workloadMetrics => []

def AppRecord.key (record : AppRecord) (app : String) : Key :=
  k root (record.area.head :: (record.area.more ++ app :: record.items))

def IsRecordOf (app : String) (key : Key) : Prop :=
  ∃ record : AppRecord, key = record.key root app

/-- The two stores differ in records of the application at most. -/
def AgreeOutside (app : String) (first second : Store) : Prop :=
  ∀ key, ¬ IsRecordOf root app key → first.find? key = second.find? key

/-- Every operation on one application leaves the records of the other as they
are, and returns the same whatever these are. -/
structure Isolated (app other : String) : Prop where
  listPods : ∀ first second, AgreeOutside root other first second →
    Etcd.listPods root app first = Etcd.listPods root app second
  listVolumeAttachments : ∀ first second, AgreeOutside root other first second →
    Etcd.listVolumeAttachments root app first = Etcd.listVolumeAttachments root app second
  setPodNodes : ∀ placements now store key, IsRecordOf root other key →
    (Etcd.setPodNodes root app placements now store).find? key = store.find? key
  deleteVolumeAttachments : ∀ store key, IsRecordOf root other key →
    (Etcd.deleteVolumeAttachments root app store).find? key = store.find? key
  deleteAppState : ∀ purgeHistory store key, IsRecordOf root other key →
    (Etcd.deleteAppState root app purgeHistory store).find? key = store.find? key

/-- The range of one application's name reaches records of another: the one
name is empty, or is a prefix of the other, or continues the other after a
slash. -/
def Overlaps (app other : String) : Prop :=
  app = "" ∨ other = "" ∨ clean app <+: clean other ∨
    ∃ rest, clean app = clean other ++ '/' :: rest ∧ rest.head? ≠ some '/'

/-! ## Prefixes of keys -/

variable {root}

theorem Area.head_ne_empty (area : Area) : area.head ≠ "" := by
  cases area <;> decide

theorem Area.no_slash (area : Area) : '/' ∉ area.head.toList := by
  cases area <;> decide

theorem Area.head_injective : Function.Injective Area.head := by
  intro first second same
  cases first <;> cases second <;> first | rfl | exact absurd same (by decide)

theorem area_eq_of_isPrefix
    {area other : Area} {rest others : List String} (begun : rest.flatMap segment ≠ [])
    (starts : k root (area.head :: rest) <+: k root (other.head :: others)) :
    area = other := by
  rw [k_cons root _ _ area.head_ne_empty, k_cons root _ _ other.head_ne_empty,
    List.append_assoc, List.append_assoc, List.prefix_append_right_inj,
    clean_of_no_slash area.no_slash, clean_of_no_slash other.no_slash] at starts
  obtain ⟨tail, whole⟩ := starts
  obtain ⟨after, slash⟩ := (flatMap_segment rest).resolve_left begun
  refine Area.head_injective (String.toList_inj.mp ?_)
  calc area.head.toList
      = ((area.head.toList ++ rest.flatMap segment) ++ tail).takeWhile (· ≠ '/') := by
        rw [slash, List.append_assoc, List.cons_append]
        exact (takeWhile_append_slash area.no_slash).symm
    _ = (other.head.toList ++ others.flatMap segment).takeWhile (· ≠ '/') := by
        rw [whole]
    _ = other.head.toList := takeWhile_append_segments other.no_slash others

/-- The digits of a padded number are a part of a key. -/
theorem clean_padded_ne_nil (micros : Nat) : clean (padded 20 micros) ≠ [] := by
  have digits : ∀ char ∈ (padded 20 micros).toList, char.isDigit := by
    intro char member
    rw [padded, String.toList_ofList, List.leftpad, List.mem_append] at member
    rcases member with zero | digit
    · rw [List.eq_of_mem_replicate zero]
      decide
    · exact Nat.isDigit_of_mem_toDigits (b := 10) (by decide) (by decide) digit
  rw [clean_of_no_slash fun slash => absurd (digits _ slash) (by decide)]
  intro empty
  have length := congrArg List.length empty
  rw [padded, String.toList_ofList, List.length_leftpad] at length
  have long := Nat.le_max_left 20 (Nat.toDigits 10 micros).length
  rw [length] at long
  exact absurd long (by decide)

/-- A name is followed by the end of the key or by one slash. -/
theorem flatMap_items (record : AppRecord) (rest : List Char) :
    record.area ≠ .probes →
    record.items.flatMap segment ≠ '/' :: '/' :: rest := by
  intro notProbes doubled
  have single : ∀ (part : String) (others : List String), clean part ≠ [] ∨ others = [] →
      (part :: others).flatMap segment ≠ '/' :: '/' :: rest := by
    intro part others written same
    by_cases empty : part = ""
    · subst empty
      rcases written with something | rfl
      · exact something rfl
      · simp at same
    · rw [List.flatMap_cons, segment_of_ne empty, List.cons_append,
        List.cons.injEq] at same
      have start := head?_clean part
      cases body : clean part with
      | nil =>
          rcases written with something | rfl
          · exact something body
          · simp [body] at same
      | cons head tail =>
          rw [body, List.cons_append, List.cons.injEq] at same
          rw [body, same.2.1] at start
          exact start rfl
  cases record with
  | pod podName => exact single podName [] (.inr rfl) doubled
  | podNode podName => exact single podName [] (.inr rfl) doubled
  | attachment volumeName => exact single volumeName [] (.inr rfl) doubled
  | revision => exact single _ _ (.inl (by decide)) doubled
  | registry => exact single _ _ (.inl (by decide)) doubled
  | serviceEndpoint => exact single _ _ (.inl (by decide)) doubled
  | event micros id => exact single _ _ (.inl (clean_padded_ne_nil micros)) doubled
  | probe => exact notProbes rfl
  | status => cases doubled
  | canary => cases doubled
  | service => cases doubled
  | workloadMetrics => cases doubled

/-- The prefix of an application's keys in an area. -/
def Area.start (area : Area) (app : String) : List String :=
  area.head :: (area.more ++ [app])

/-- The prefix of one application reaches a record of another only when their
names overlap. -/
theorem overlaps_of_isPrefix
    {area : Area} {app other : String} {record : AppRecord} (kept : area ≠ .probes)
    (starts : k root (area.start app) <+: record.key root other) : Overlaps app other := by
  by_cases unnamed : app = ""
  · exact .inl unnamed
  by_cases otherUnnamed : other = ""
  · exact .inr (.inl otherUnnamed)
  refine .inr (.inr ?_)
  have begun : (area.more ++ [app]).flatMap segment ≠ [] := by
    simp [segment_of_ne unnamed]
  obtain rfl := area_eq_of_isPrefix begun starts
  rw [Area.start, AppRecord.key, ← List.cons_append, ← List.cons_append,
    k_append root _ _ _ record.area.head_ne_empty,
    k_append root _ _ _ record.area.head_ne_empty, List.prefix_append_right_inj,
    List.flatMap_cons, List.flatMap_cons, List.flatMap_nil, List.append_nil,
    segment_of_ne unnamed, segment_of_ne otherUnnamed, List.cons_append,
    List.cons_prefix_cons] at starts
  rcases List.prefix_or_prefix_of_prefix starts.2 (List.prefix_append _ _) with
    within | ⟨rest, longer⟩
  · exact .inl within
  rw [← longer, List.prefix_append_right_inj] at starts
  obtain ⟨tail, whole⟩ := starts.2
  cases rest with
  | nil => exact .inl (by simp [← longer])
  | cons head others =>
      -- What follows the other name in its key starts with one slash.
      obtain ⟨after, slash⟩ := (flatMap_segment record.items).resolve_left (by
        simp [← whole])
      rw [slash, List.cons_append, List.cons.injEq] at whole
      obtain ⟨rfl, whole⟩ := whole
      refine .inr ⟨others, longer.symm, fun doubled => ?_⟩
      cases others with
      | nil => simp at doubled
      | cons next rest =>
          simp only [List.head?_cons, Option.some.injEq] at doubled
          refine flatMap_items record (rest ++ tail) kept ?_
          rw [slash, ← whole, doubled, List.cons_append]

/-- Names that overlap have a pod record in common: the range of the one
reaches it, and it belongs to the other. -/
theorem exists_pod_of_overlaps
    (root : String) {app other : String} (overlaps : Overlaps app other) :
    ∃ podName, k root (Area.start .pods app) <+: (AppRecord.pod podName).key root other := by
  have parts : ∀ names, k root ("pods" :: names) = k root ["pods"] ++ names.flatMap segment :=
    fun names => k_append root "pods" [] names (by decide)
  change ∃ podName, k root ["pods", app] <+: k root ["pods", other, podName]
  rw [parts [app]]
  simp only [parts [other, _], List.prefix_append_right_inj, List.flatMap_cons,
    List.flatMap_nil, List.append_nil]
  by_cases unnamed : app = ""
  · exact ⟨"", by simp [unnamed]⟩
  by_cases otherUnnamed : other = ""
  · exact ⟨app, by simp [otherUnnamed]⟩
  rw [segment_of_ne unnamed, segment_of_ne otherUnnamed]
  rcases overlaps with empty | empty | within | ⟨rest, longer, start⟩
  · exact absurd empty unnamed
  · exact absurd empty otherUnnamed
  · exact ⟨"", by simpa using within⟩
  · have finish : rest.getLast? ≠ some '/' := by
      intro slash
      refine getLast?_clean app ?_
      rw [longer, List.getLast?_append, List.getLast?_cons, slash]
      rfl
    have written : String.ofList rest ≠ "" := by
      intro empty
      have none : rest = [] := by simpa using congrArg String.toList empty
      refine getLast?_clean app ?_
      rw [longer, none, List.getLast?_append]
      rfl
    refine ⟨String.ofList rest, ?_⟩
    rw [segment_of_ne written, clean_ofList start finish, longer]
    exact List.prefix_refl _

/-! ## Isolation -/

section Isolation

variable {app other : String} (clear : ¬ Overlaps app other)

include clear

/-- The range of an application does not reach the other's records. -/
theorem not_isPrefix_of_record
    (area : Area) (kept : area ≠ .probes) {key : Key} (record : IsRecordOf root other key) :
    ¬ k root (area.start app) <+: key := by
  obtain ⟨record, rfl⟩ := record
  exact fun starts => clear (overlaps_of_isPrefix kept starts)

/-- Deleting a range of an application keeps the other's records. -/
theorem find?_deletePrefix_of_record
    (area : Area) (kept : area ≠ .probes) {key : Key} (record : IsRecordOf root other key)
    (start : Key) (within : k root (area.start app) <+: start) (store : Store) :
    (store.deletePrefix start).find? key = store.find? key := by
  rw [Store.find?_deletePrefix, if_neg]
  exact fun starts => not_isPrefix_of_record clear area kept record (within.trans starts)

/-- Listing a range of an application shows nothing of the other. -/
theorem listPrefix_of_agreeOutside
    (area : Area) (kept : area ≠ .probes) {first second : Store}
    (agree : AgreeOutside root other first second) :
    first.listPrefix (k root (area.start app)) = second.listPrefix (k root (area.start app)) :=
  Store.listPrefix_congr fun key starts => agree key fun record =>
    not_isPrefix_of_record clear area kept record starts

theorem find?_setPodNodes_of_record
    {key : Key} (record : IsRecordOf root other key) (placements : List (String × String))
    (now : String) (store : Store) :
    (setPodNodes root app placements now store).find? key = store.find? key := by
  rw [setPodNodes, ← find?_deletePrefix_of_record clear .podNodes (by decide) record
    (k root ["pod_nodes", app]) (List.prefix_refl _) store]
  generalize store.deletePrefix (k root ["pod_nodes", app]) = start
  induction placements generalizing start with
  | nil => rfl
  | cons placement rest ih =>
      rw [List.foldl_cons, ih, Store.find?_putJson, if_neg]
      rintro rfl
      refine not_isPrefix_of_record clear .podNodes (by decide) record ?_
      exact ⟨[placement.1].flatMap segment,
        (k_append root "pod_nodes" [app] [placement.1] (by decide)).symm⟩

theorem find?_deleteAppState_of_record
    {key : Key} (record : IsRecordOf root other key) (purgeHistory : Bool) (store : Store) :
    (deleteAppState root app purgeHistory store).find? key = store.find? key := by
  have deleted := fun area kept => find?_deletePrefix_of_record clear area kept record
  have notStatus : k root ["status", app] ≠ key := fun same =>
    not_isPrefix_of_record clear .status (by decide) record (same ▸ List.prefix_refl _)
  have revisions : k root (Area.start .apps app) <+: k root ["apps", app, "revisions"] :=
    ⟨["revisions"].flatMap segment, (k_append root "apps" [app] ["revisions"] (by decide)).symm⟩
  have current : ((((store.deletePrefix (k root ["pods", app])).deletePrefix
      (k root ["pod_nodes", app])).delete (k root ["status", app])).deletePrefix
      (k root ["storage", "attachments", app])).find? key = store.find? key := by
    rw [deleted .attachments (by decide) (k root ["storage", "attachments", app])
        (List.prefix_refl _),
      Store.find?_delete, if_neg notStatus,
      deleted .podNodes (by decide) (k root ["pod_nodes", app]) (List.prefix_refl _),
      deleted .pods (by decide) (k root ["pods", app]) (List.prefix_refl _)]
  unfold deleteAppState
  cases purgeHistory with
  | false => exact current
  | true =>
      simp only [if_true]
      rw [deleted .apps (by decide) _ revisions,
        deleted .events (by decide) (eventPrefix root app) (List.prefix_append _ _), current]

theorem isolated_of_not_overlaps : Isolated root app other where
  listPods := by
    intro first second agree
    have rows : first.listPrefix (k root ["pods", app]) =
        second.listPrefix (k root ["pods", app]) :=
      listPrefix_of_agreeOutside clear .pods (by decide) agree
    rw [listPods, rows, listPods]
  listVolumeAttachments := by
    intro first second agree
    exact congrArg (List.map _) (listPrefix_of_agreeOutside clear .attachments (by decide) agree)
  setPodNodes := fun placements now store key record =>
    find?_setPodNodes_of_record clear record placements now store
  deleteVolumeAttachments := fun store key record =>
    find?_deletePrefix_of_record clear .attachments (by decide) record _
      (List.prefix_refl _) store
  deleteAppState := fun purgeHistory store key record =>
    find?_deleteAppState_of_record clear record purgeHistory store

end Isolation

/-- A listing of an application shows the records of another whose name it
overlaps. -/
theorem not_isolated_of_overlaps
    (root : String) {app other : String} (overlaps : Overlaps app other) :
    ¬ Isolated root app other := by
  intro isolated
  obtain ⟨podName, starts⟩ := exists_pod_of_overlaps root overlaps
  -- A store with this pod record alone is told from the empty one.
  let key := (AppRecord.pod podName).key root other
  have agree : AgreeOutside root other Store.empty (Store.empty.putJson key []) := by
    intro candidate foreign
    rw [Store.find?_putJson, if_neg]
    rintro rfl
    exact foreign ⟨.pod podName, rfl⟩
  have same := congrArg List.length (isolated.listPods _ _ agree)
  simp only [listPods, List.length_mergeSort, List.length_map] at same
  have listed : (key, ⟨[], 2⟩) ∈
      (Store.empty.putJson key []).listPrefix (k root ["pods", app]) := by
    rw [Store.mem_listPrefix]
    exact ⟨by simp [Store.empty], starts⟩
  have none : (Store.empty.listPrefix (k root ["pods", app])).length = 0 := by
    simp [Store.listPrefix, Store.empty, Dictionary.empty]
  rw [none] at same
  rw [List.eq_nil_of_length_eq_zero same.symm] at listed
  exact List.not_mem_nil listed

/-- Every operation on an application leaves the records of another alone, and
does not return them, exactly when the ranges of the names do not overlap. -/
theorem isolated_iff (root app other : String) :
    Isolated root app other ↔ ¬ Overlaps app other :=
  ⟨fun isolated overlaps => not_isolated_of_overlaps root overlaps isolated,
    isolated_of_not_overlaps⟩

/-- The records of `web-2` are in the range of `web`. -/
theorem not_isolated_web : ¬ Isolated "k1s/v1" "web" "web-2" :=
  not_isolated_of_overlaps "k1s/v1" (.inr (.inr (.inl (by decide))))

end Etcd
end K1s
