import K1s.Nodes.PodCidrs

/-!
# The overlay network between the nodes

The controller computes for each node the peers of its overlay: a hub gets the spokes,
each with its own CIDR, and a spoke gets the hubs, each with the CIDRs of all other
nodes.  Who is a hub is read from the labels `wg_role` where the node has that label
itself, and else from the role and the site.

The main result says for which tables of nodes the peers are mutual and no address is
owned by two peers of one node.
-/

namespace K1s
namespace Nodes

open Py

/-! ## Roles and sites -/

/-- The text before the first `--`, if there is one. -/
def beforeDashes : List Char → Option (List Char)
  | '-' :: '-' :: _ => some []
  | character :: rest => (beforeDashes rest).map (character :: ·)
  | [] => none

def nodeSite (nodeId : String) (labels : Dict) : Option String :=
  let site := (Dict.get labels "site").or (Dict.get labels "site_id")
  if site.truthy then some site.toStr
  else (beforeDashes nodeId.toList).map String.ofList

/-- `str(labels.get(key) or "").strip().lower()`. -/
def roleLabel (labels : Dict) (key : String) : String :=
  lower (strip ((Dict.get labels key).or (.str "")).toStr)

def nodeIsHub (nodeId : String) (labels : Dict) (hubSite : Option String) : Bool :=
  ["controller", "hub"].contains (roleLabel labels "role") || hubSite.any fun hub =>
      decide (nodeSite nodeId labels = some hub) || startsWith (hub ++ "--") nodeId

def wgRole (labels : Dict) : Option String :=
  if roleLabel labels "wg_role" ∈ ["hub", "spk", "spoke"] then
    some (roleLabel labels "wg_role")
  else none

def peerEndpoint (labels : Dict) (fallback : Option String) : Option String :=
  (fallback.filter (· ≠ "")).orElse fun _ =>
    (["wg_endpoint", "wg_endpoint_public", "wg_endpoint_private"].map (Dict.get labels)).find?
      Json.truthy |>.map Json.toStr

/-- The variables of the environment that the payload depends on. -/
structure OverlayEnvironment where
  overlayHubSite : Option String
  siteId : Option String
  overlayHubEndpoint : Option String
  persistentKeepalive : Option String

namespace OverlayEnvironment

def hubSite (environment : OverlayEnvironment) : Option String :=
  let first := environment.overlayHubSite.getD ""
  let text := strip (if first = "" then environment.siteId.getD "" else first)
  if text = "" then none else some text

def keepalive (environment : OverlayEnvironment) : Int :=
  let text := environment.persistentKeepalive.getD "25"
  if text = "" then 25 else (Json.str text).toInt.getD 25

end OverlayEnvironment

/-! ## The payload -/

structure OverlayPeer where
  name : String
  nodeId : String
  siteId : Option String
  endpoint : Option String
  wgPubkey : String
  rosenpassPubkey : Option String
  allowedIps : List String
  role : String
  persistentKeepalive : Option Int

structure OverlayPayload where
  nodeId : String
  siteId : Option String
  hubSite : Option String
  topology : String
  peers : List OverlayPeer
  errors : List String

namespace NodeRecord

def wgKey (record : NodeRecord) : Option String := record.wgPubkey.filter (· ≠ "")

/-- `pod_cidr`, if it is not empty. -/
def cidr (record : NodeRecord) : Option String := record.podCidr.filter (· ≠ "")

def overlayNode (useWgRole : Bool) (record : NodeRecord) : Bool :=
  !useWgRole || (wgRole record.labels).isSome

variable (environment : OverlayEnvironment)

/-- `is_hub` and `rec_is_hub`. -/
def isHub (useWgRole : Bool) (record : NodeRecord) : Bool :=
  if useWgRole then decide (wgRole record.labels = some "hub")
  else nodeIsHub record.nodeId record.labels environment.hubSite

/-- The body of the loop over the nodes, for one record: the peer that is listed and
the errors. -/
def overlayPeer
    (useWgRole isHub : Bool) (allCidrs : List String)
    (node record : NodeRecord) : Option OverlayPeer × List String :=
  if record.nodeId = node.nodeId then (none, [])
  else if !record.overlayNode useWgRole then (none, [])
  else if isHub && record.isHub environment useWgRole then (none, [])
  else if !isHub && !record.isHub environment useWgRole then (none, [])
  else
    match record.wgKey with
    | none => (none, ["peer " ++ record.nodeId ++ " missing wg_pubkey"])
    | some wgPubkey =>
        let endpoint :=
          if isHub then none
          else peerEndpoint record.labels environment.overlayHubEndpoint
        (some
          { name := record.nodeId
            nodeId := record.nodeId
            siteId := nodeSite record.nodeId record.labels
            endpoint := endpoint
            wgPubkey := wgPubkey
            rosenpassPubkey := record.rpPubkey
            allowedIps :=
              if isHub then record.cidr.toList
              else allCidrs.filter fun cidr => decide (some cidr ≠ node.podCidr)
            role := if isHub then "responder" else "initiator"
            persistentKeepalive := if isHub then none else some environment.keepalive },
          (if (record.rpPubkey.filter (· ≠ "")).isNone then
              ["peer " ++ record.nodeId ++ " missing rp_pubkey"]
            else []) ++
          if !isHub && endpoint.isNone then
            ["peer " ++ record.nodeId ++ " missing wg_endpoint"]
          else [])

end NodeRecord

/-- `list_nodes`, in the order of the ids. -/
def NodeTable.listNodes (table : NodeTable) : List NodeRecord :=
  (table.rows.entries.map Prod.snd).mergeSort fun first second =>
    decide (first.nodeId ≤ second.nodeId)

def buildOverlayPayload
    (environment : OverlayEnvironment) (table : NodeTable)
    (nodeId : String) : Option OverlayPayload :=
  (table.rows.find? nodeId).map fun node =>
    let nodes := table.listNodes
    let wgRolePresent := nodes.any fun record => (wgRole record.labels).isSome
    let useWgRole := wgRolePresent && (wgRole node.labels).isSome
    let isHub := node.isHub environment useWgRole
    let payload : OverlayPayload :=
      { nodeId := node.nodeId
        siteId := nodeSite node.nodeId node.labels
        hubSite := environment.hubSite
        topology := "hub-spoke"
        peers := []
        errors := [] }
    if useWgRole && !node.overlayNode useWgRole then
      { payload with
        errors := ["node missing wg_role; overlay peers filtered by wg_role labels"] }
    else
      let allCidrs := (nodes.filter (NodeRecord.overlayNode useWgRole)).filterMap
        NodeRecord.cidr
      { payload with
        peers := nodes.filterMap fun record =>
          (node.overlayPeer environment useWgRole isHub allCidrs record).1
        errors := nodes.flatMap fun record =>
          (node.overlayPeer environment useWgRole isHub allCidrs record).2 }

/-! ## Peers of a node -/

/-- The node has a `wg_role`, and its payload goes by that label. -/
def NodeRecord.usesWgRole (record : NodeRecord) : Bool := (wgRole record.labels).isSome

/-- The node lists the record: it is another node of the overlay that the node goes by,
of the opposite role and with a key. -/
structure Sees (environment : OverlayEnvironment) (node record : NodeRecord) : Prop where
  other : record.nodeId ≠ node.nodeId
  overlay : record.overlayNode node.usesWgRole = true
  opposite : node.isHub environment node.usesWgRole ≠ record.isHub environment node.usesWgRole
  keyed : record.wgKey.isSome = true

def NodeRecord.allowedIps
    (environment : OverlayEnvironment) (allCidrs : List String)
    (node record : NodeRecord) : List String :=
  if node.isHub environment node.usesWgRole then record.cidr.toList
  else allCidrs.filter fun cidr => decide (some cidr ≠ node.podCidr)

variable {node record : NodeRecord}

theorem overlayPeer_of_sees
    {environment : OverlayEnvironment} (sees : Sees environment node record)
    (allCidrs : List String) :
    ∃ peer, (node.overlayPeer environment node.usesWgRole
        (node.isHub environment node.usesWgRole) allCidrs record).1 = some peer ∧
      peer.nodeId = record.nodeId ∧
      peer.allowedIps = node.allowedIps environment allCidrs record := by
  obtain ⟨wgPubkey, isKey⟩ := Option.isSome_iff_exists.mp sees.keyed
  have opposite := sees.opposite
  unfold NodeRecord.overlayPeer NodeRecord.allowedIps
  rw [if_neg sees.other, sees.overlay, isKey]
  cases isHub : node.isHub environment node.usesWgRole with
  | true =>
      cases recIsHub : record.isHub environment node.usesWgRole with
      | true => exact absurd (isHub.trans recIsHub.symm) opposite
      | false => exact ⟨_, rfl, rfl, rfl⟩
  | false =>
      cases recIsHub : record.isHub environment node.usesWgRole with
      | true => exact ⟨_, rfl, rfl, rfl⟩
      | false => exact absurd (isHub.trans recIsHub.symm) opposite

variable {peer : OverlayPeer}

theorem sees_of_overlayPeer
    {environment : OverlayEnvironment} {allCidrs : List String}
    (listed : (node.overlayPeer environment node.usesWgRole
      (node.isHub environment node.usesWgRole) allCidrs record).1 = some peer) :
    Sees environment node record := by
  unfold NodeRecord.overlayPeer at listed
  split at listed
  · cases listed
  · next other =>
    split at listed
    · cases listed
    · next overlay =>
      split at listed
      · cases listed
      · next notBothHubs =>
        split at listed
        · cases listed
        · next notBothSpokes =>
          refine ⟨other, by simpa using overlay, fun same => ?_, ?_⟩
          · rw [same] at notBothHubs notBothSpokes
            cases isHub : record.isHub environment node.usesWgRole <;>
              simp [isHub] at notBothHubs notBothSpokes
          · cases isKey : record.wgKey with
            | none =>
                rw [isKey] at listed
                cases listed
            | some wgPubkey => rfl

/-! ## The records of a table -/

theorem NodeTable.mem_listNodes (table : NodeTable) (record : NodeRecord) :
    record ∈ table.listNodes ↔ table.rows.find? record.nodeId = some record := by
  rw [listNodes, List.mem_mergeSort, List.mem_map]
  constructor
  · rintro ⟨⟨nodeId, found⟩, listed, rfl⟩
    have present := (Dictionary.find?_eq_some_iff table.rows nodeId found).mpr listed
    rwa [table.keyed nodeId found present] at present
  · intro found
    exact ⟨_, (Dictionary.find?_eq_some_iff table.rows record.nodeId record).mp found, rfl⟩

def NodeTable.overlayCidrs (table : NodeTable) (node : NodeRecord) : List String :=
  (table.listNodes.filter (NodeRecord.overlayNode node.usesWgRole)).filterMap NodeRecord.cidr

variable {table : NodeTable} {nodeId : String}

/-- The peers of a node that is registered.  The branch of a node that lacks the label
`wg_role` is never taken, because such a node does not go by it. -/
theorem peers_of_find
    (environment : OverlayEnvironment) (found : table.rows.find? nodeId = some node) :
    ∃ payload, buildOverlayPayload environment table nodeId = some payload ∧
      payload.peers = table.listNodes.filterMap fun record =>
        (node.overlayPeer environment node.usesWgRole
          (node.isHub environment node.usesWgRole) (table.overlayCidrs node) record).1 := by
  have same := table.keyed nodeId node found
  have listed : node ∈ table.listNodes := (table.mem_listNodes node).mpr (same ▸ found)
  have useWgRole : ((table.listNodes.any fun record => (wgRole record.labels).isSome) &&
      (wgRole node.labels).isSome) = node.usesWgRole := by
    rw [NodeRecord.usesWgRole, Bool.and_eq_right_iff_imp]
    exact fun labelled => List.any_eq_true.mpr ⟨node, listed, labelled⟩
  have notFiltered : (node.usesWgRole && !node.overlayNode node.usesWgRole) = false := by
    cases labelled : (wgRole node.labels).isSome <;>
      simp [NodeRecord.usesWgRole, NodeRecord.overlayNode, labelled]
  have built : ∃ payload, buildOverlayPayload environment table nodeId = some payload := by
    rw [buildOverlayPayload, found]
    exact ⟨_, rfl⟩
  obtain ⟨payload, isPayload⟩ := built
  refine ⟨payload, isPayload, ?_⟩
  rw [buildOverlayPayload, found, Option.map_some, Option.some.injEq] at isPayload
  simp only [useWgRole, notFiltered, Bool.false_eq_true, if_false] at isPayload
  rw [← isPayload]
  rfl

variable {payload : OverlayPayload}

theorem record_of_peer
    {environment : OverlayEnvironment} (found : table.rows.find? nodeId = some node)
    (built : buildOverlayPayload environment table nodeId = some payload)
    (isPeer : peer ∈ payload.peers) :
    ∃ record, table.rows.find? record.nodeId = some record ∧ Sees environment node record ∧
      peer.nodeId = record.nodeId ∧
      peer.allowedIps = node.allowedIps environment (table.overlayCidrs node) record := by
  obtain ⟨other, isOther, peers⟩ := peers_of_find environment found
  obtain rfl := Option.some.inj (isOther.symm.trans built)
  rw [peers] at isPeer
  obtain ⟨record, listed, isListed⟩ := List.mem_filterMap.mp isPeer
  have sees := sees_of_overlayPeer isListed
  obtain ⟨same, isSame, nodeId, allowedIps⟩ := overlayPeer_of_sees sees (table.overlayCidrs node)
  obtain rfl := Option.some.inj (isSame.symm.trans isListed)
  exact ⟨record, (table.mem_listNodes record).mp listed, sees, nodeId, allowedIps⟩

theorem peer_of_record
    {environment : OverlayEnvironment} (found : table.rows.find? nodeId = some node)
    (built : buildOverlayPayload environment table nodeId = some payload)
    (isRecord : table.rows.find? record.nodeId = some record)
    (sees : Sees environment node record) :
    ∃ peer ∈ payload.peers, peer.nodeId = record.nodeId ∧
      peer.allowedIps = node.allowedIps environment (table.overlayCidrs node) record := by
  obtain ⟨other, isOther, peers⟩ := peers_of_find environment found
  obtain rfl := Option.some.inj (isOther.symm.trans built)
  obtain ⟨peer, isPeer, rest⟩ := overlayPeer_of_sees sees (table.overlayCidrs node)
  refine ⟨peer, ?_, rest⟩
  rw [peers]
  exact List.mem_filterMap.mpr ⟨record, (table.mem_listNodes record).mpr isRecord, isPeer⟩

/-! ## Consistency -/

/-- The payload of the first node has a peer with the second id. -/
def Lists (environment : OverlayEnvironment) (table : NodeTable) (first second : String) :
    Prop :=
  ∃ payload, buildOverlayPayload environment table first = some payload ∧
    ∃ peer ∈ payload.peers, peer.nodeId = second

/-- The peers are mutual, and no address is allowed for two peers of one node. -/
structure OverlayConsistent (environment : OverlayEnvironment) (table : NodeTable) : Prop where
  symmetric : ∀ first second,
    Lists environment table first second ↔ Lists environment table second first
  apart : ∀ nodeId payload, buildOverlayPayload environment table nodeId = some payload →
    ∀ one ∈ payload.peers, ∀ other ∈ payload.peers, one.nodeId ≠ other.nodeId →
    ∀ cidr ∈ one.allowedIps, ∀ second ∈ other.allowedIps,
      Disjoint (addressesOf cidr) (addressesOf second)

theorem lists_iff
    (environment : OverlayEnvironment) (table : NodeTable) (first second : String) :
    Lists environment table first second ↔ ∃ node record, table.rows.find? first = some node ∧
        table.rows.find? second = some record ∧ Sees environment node record := by
  constructor
  · rintro ⟨payload, built, peer, isPeer, rfl⟩
    obtain ⟨node, found, -⟩ := Option.map_eq_some_iff.mp built
    obtain ⟨record, isRecord, sees, same, -⟩ := record_of_peer found built isPeer
    exact ⟨node, record, found, same ▸ isRecord, sees⟩
  · rintro ⟨node, record, found, isRecord, sees⟩
    have same := table.keyed second record isRecord
    obtain ⟨payload, built, -⟩ := peers_of_find environment found
    obtain ⟨peer, isPeer, nodeId, -⟩ :=
      peer_of_record found built (same ▸ isRecord) sees
    exact ⟨payload, built, peer, isPeer, nodeId.trans same.symm⟩

def NodeTable.Has (table : NodeTable) (record : NodeRecord) : Prop :=
  table.rows.find? record.nodeId = some record

theorem NodeTable.has_of_find
    (found : table.rows.find? nodeId = some record) : table.Has record := by
  rw [Has, ← table.keyed nodeId record found]
  exact found

/-- The exact condition on the nodes. -/
structure OverlaySettled (environment : OverlayEnvironment) (table : NodeTable) : Prop where
  /-- Of two nodes of opposite roles that go by the same labels, both have a key or
  neither has. -/
  keys : ∀ first second, table.Has first → table.Has second → first.nodeId ≠ second.nodeId →
    first.usesWgRole = second.usesWgRole →
    first.isHub environment first.usesWgRole ≠ second.isHub environment first.usesWgRole →
    first.wgKey.isSome = second.wgKey.isSome
  /-- A node without a `wg_role` has, by the role and the site, the same role as every
  node that has a `wg_role` and a key. -/
  labels : ∀ first second, table.Has first → table.Has second →
    first.usesWgRole = false → second.usesWgRole = true → second.wgKey.isSome = true →
    first.isHub environment false = second.isHub environment false
  /-- The CIDRs of two nodes that a hub lists are disjoint. -/
  spokes : ∀ node first second, table.Has node → table.Has first → table.Has second →
    node.isHub environment node.usesWgRole = true → first.nodeId ≠ second.nodeId →
    Sees environment node first → Sees environment node second →
    ∀ cidr ∈ first.cidr, ∀ other ∈ second.cidr, Disjoint (addressesOf cidr) (addressesOf other)
  /-- A spoke that lists two hubs has no addresses of other nodes to reach. -/
  hubs : ∀ node first second, table.Has node → table.Has first → table.Has second →
    node.isHub environment node.usesWgRole = false → first.nodeId ≠ second.nodeId →
    Sees environment node first → Sees environment node second →
    ∀ cidr ∈ table.overlayCidrs node, some cidr ≠ node.podCidr → addressesOf cidr = ∅

theorem NodeRecord.overlayNode_usesWgRole (record : NodeRecord) :
    record.overlayNode true = record.usesWgRole := by
  simp [overlayNode, usesWgRole]

variable {first second : NodeRecord}

/-- Both nodes of a pair that goes by the same labels list the other by its key. -/
theorem sees_iff_of_same
    {environment : OverlayEnvironment} (same : first.usesWgRole = second.usesWgRole) :
    Sees environment first second ↔ first.nodeId ≠ second.nodeId ∧
      first.isHub environment first.usesWgRole ≠ second.isHub environment first.usesWgRole ∧
      second.wgKey.isSome = true := by
  constructor
  · exact fun sees => ⟨sees.other.symm, sees.opposite, sees.keyed⟩
  · rintro ⟨other, opposite, keyed⟩
    refine ⟨other.symm, ?_, opposite, keyed⟩
    cases uses : first.usesWgRole with
    | false => rfl
    | true => rw [NodeRecord.overlayNode_usesWgRole, ← same, uses]

/-- A node that goes by `wg_role` lists no node without it. -/
theorem not_sees_of_labels
    {environment : OverlayEnvironment} (uses : first.usesWgRole = true)
    (lacks : second.usesWgRole = false) : ¬ Sees environment first second := by
  intro sees
  have overlay := sees.overlay
  rw [uses, NodeRecord.overlayNode_usesWgRole, lacks] at overlay
  cases overlay

/-- A node that a settled node lists, lists it too. -/
theorem symmetric_of_settled
    {environment : OverlayEnvironment} (settled : OverlaySettled environment table)
    {first second : String}
    (lists : Lists environment table first second) : Lists environment table second first := by
  obtain ⟨node, record, isNode, isRecord, sees⟩ := (lists_iff environment table _ _).mp lists
  refine (lists_iff environment table _ _).mpr ⟨record, node, isRecord, isNode, ?_⟩
  have hasNode : table.Has node := NodeTable.has_of_find isNode
  have hasRecord : table.Has record := NodeTable.has_of_find isRecord
  by_cases same : node.usesWgRole = record.usesWgRole
  · refine (sees_iff_of_same same.symm).mpr ⟨sees.other, ?_, ?_⟩
    · rw [← same]
      exact sees.opposite.symm
    · rw [settled.keys node record hasNode hasRecord sees.other.symm same sees.opposite]
      exact sees.keyed
  · cases uses : node.usesWgRole with
    | true =>
        have lacks : record.usesWgRole = false := by
          rw [uses] at same
          exact Bool.eq_false_of_not_eq_true fun isTrue => same isTrue.symm
        exact absurd sees (not_sees_of_labels uses lacks)
    | false =>
        have labelled : record.usesWgRole = true := by
          rw [uses] at same
          exact Bool.eq_true_of_not_eq_false fun isFalse => same isFalse.symm
        have opposite := sees.opposite
        rw [uses] at opposite
        exact absurd (settled.labels node record hasNode hasRecord uses labelled sees.keyed)
          opposite

theorem settled_of_consistent
    {environment : OverlayEnvironment}
    (consistent : OverlayConsistent environment table) : OverlaySettled environment table where
  keys := by
    intro first second hasFirst hasSecond apart same opposite
    have mutually := consistent.symmetric first.nodeId second.nodeId
    have toSecond : Lists environment table first.nodeId second.nodeId ↔
        second.wgKey.isSome = true := by
      rw [lists_iff]
      constructor
      · rintro ⟨node, record, isNode, isRecord, sees⟩
        obtain rfl := Option.some.inj (hasSecond.symm.trans isRecord)
        exact sees.keyed
      · exact fun keyed => ⟨first, second, hasFirst, hasSecond,
          (sees_iff_of_same same).mpr ⟨apart, opposite, keyed⟩⟩
    have toFirst : Lists environment table second.nodeId first.nodeId ↔
        first.wgKey.isSome = true := by
      rw [lists_iff]
      constructor
      · rintro ⟨node, record, isNode, isRecord, sees⟩
        obtain rfl := Option.some.inj (hasFirst.symm.trans isRecord)
        exact sees.keyed
      · exact fun keyed => ⟨second, first, hasSecond, hasFirst,
          (sees_iff_of_same same.symm).mpr ⟨apart.symm, same ▸ opposite.symm, keyed⟩⟩
    exact Bool.eq_iff_iff.mpr (toFirst.symm.trans (mutually.symm.trans toSecond))
  labels := by
    intro first second hasFirst hasSecond lacks uses keyed
    by_contra opposite
    have apart : second.nodeId ≠ first.nodeId := by
      intro same
      rw [NodeTable.Has, same, hasFirst] at hasSecond
      rw [Option.some.inj hasSecond, uses] at lacks
      cases lacks
    have sees : Sees environment first second :=
      ⟨apart, by rw [lacks]; rfl, by rw [lacks]; exact opposite, keyed⟩
    obtain ⟨node, record, isNode, isRecord, back⟩ := (lists_iff environment table _ _).mp
      ((consistent.symmetric first.nodeId second.nodeId).mp
        ((lists_iff environment table _ _).mpr ⟨first, second, hasFirst, hasSecond, sees⟩))
    obtain rfl := Option.some.inj (hasSecond.symm.trans isNode)
    obtain rfl := Option.some.inj (hasFirst.symm.trans isRecord)
    exact not_sees_of_labels uses lacks back
  spokes := by
    intro node first second hasNode hasFirst hasSecond isHub apart toFirst toSecond cidr isCidr
      other isOther
    obtain ⟨payload, built, -⟩ := peers_of_find environment hasNode
    obtain ⟨one, isOne, oneId, oneIps⟩ := peer_of_record hasNode built hasFirst toFirst
    obtain ⟨two, isTwo, twoId, twoIps⟩ := peer_of_record hasNode built hasSecond toSecond
    refine consistent.apart node.nodeId payload built one isOne two isTwo ?_ cidr ?_ other ?_
    · rwa [oneId, twoId]
    · rw [oneIps, NodeRecord.allowedIps, if_pos isHub]
      exact Option.mem_toList.mpr isCidr
    · rw [twoIps, NodeRecord.allowedIps, if_pos isHub]
      exact Option.mem_toList.mpr isOther
  hubs := by
    intro node first second hasNode hasFirst hasSecond isSpoke apart toFirst toSecond cidr
      isCidr notOwn
    obtain ⟨payload, built, -⟩ := peers_of_find environment hasNode
    obtain ⟨one, isOne, oneId, oneIps⟩ := peer_of_record hasNode built hasFirst toFirst
    obtain ⟨two, isTwo, twoId, twoIps⟩ := peer_of_record hasNode built hasSecond toSecond
    have allowed : cidr ∈ node.allowedIps environment (table.overlayCidrs node) first ∧
        cidr ∈ node.allowedIps environment (table.overlayCidrs node) second := by
      simp only [NodeRecord.allowedIps, isSpoke, Bool.false_eq_true, if_false]
      exact ⟨List.mem_filter.mpr ⟨isCidr, decide_eq_true notOwn⟩,
        List.mem_filter.mpr ⟨isCidr, decide_eq_true notOwn⟩⟩
    refine disjoint_self.mp (consistent.apart node.nodeId payload built one isOne two isTwo ?_
      cidr (oneIps ▸ allowed.1) cidr (twoIps ▸ allowed.2))
    rwa [oneId, twoId]

theorem apart_of_settled
    {environment : OverlayEnvironment} (settled : OverlaySettled environment table)
    (built : buildOverlayPayload environment table nodeId = some payload)
    {one other : OverlayPeer} (isOne : one ∈ payload.peers)
    (isOther : other ∈ payload.peers) (distinct : one.nodeId ≠ other.nodeId)
    {cidr second : String} (isCidr : cidr ∈ one.allowedIps)
    (isSecond : second ∈ other.allowedIps) :
    Disjoint (addressesOf cidr) (addressesOf second) := by
  obtain ⟨node, found, -⟩ := Option.map_eq_some_iff.mp built
  have hasNode : table.Has node := NodeTable.has_of_find found
  obtain ⟨first, hasFirst, toFirst, firstId, firstIps⟩ := record_of_peer found built isOne
  obtain ⟨record, hasRecord, toRecord, recordId, recordIps⟩ :=
    record_of_peer found built isOther
  rw [firstId, recordId] at distinct
  rw [firstIps, NodeRecord.allowedIps] at isCidr
  rw [recordIps, NodeRecord.allowedIps] at isSecond
  cases isHub : node.isHub environment node.usesWgRole with
  | true =>
      rw [if_pos isHub] at isCidr isSecond
      exact settled.spokes node first record hasNode hasFirst hasRecord isHub distinct toFirst
        toRecord cidr (Option.mem_toList.mp isCidr) second (Option.mem_toList.mp isSecond)
  | false =>
      simp only [isHub, Bool.false_eq_true, if_false] at isCidr
      obtain ⟨inOverlay, notOwn⟩ := List.mem_filter.mp isCidr
      rw [settled.hubs node first record hasNode hasFirst hasRecord isHub distinct toFirst
        toRecord cidr inOverlay (of_decide_eq_true notOwn)]
      exact Set.empty_disjoint _

/-- The payloads are consistent exactly when the nodes are settled. -/
theorem overlayConsistent_iff (environment : OverlayEnvironment) (table : NodeTable) :
    OverlayConsistent environment table ↔ OverlaySettled environment table :=
  ⟨settled_of_consistent, fun settled =>
    ⟨fun _ _ => ⟨symmetric_of_settled settled, symmetric_of_settled settled⟩,
      fun _ _ built _ isOne _ isOther distinct _ isCidr _ isSecond =>
        apart_of_settled settled built isOne isOther distinct isCidr isSecond⟩⟩

/-- A hub that has a `wg_role`. -/
def labelledHub : NodeRecord :=
  ⟨"a", none, [("role", .str "hub"), ("wg_role", .str "hub")], none, none, none, some "ka", none⟩

/-- A node without labels. -/
def plainNode : NodeRecord := ⟨"b", none, [], none, none, none, some "kb", none⟩

/-- The node without a `wg_role` lists the hub, which does not list it. -/
theorem not_overlayConsistent_mixedLabels :
    ¬ OverlayConsistent ⟨none, none, none, none⟩
      ((NodeTable.empty.upsertNode labelledHub).upsertNode plainNode) := by
  intro consistent
  have same := (settled_of_consistent consistent).labels plainNode labelledHub rfl rfl
    (by decide +kernel) (by decide +kernel) (by decide +kernel)
  exact absurd same (by decide +kernel)

end Nodes
end K1s
