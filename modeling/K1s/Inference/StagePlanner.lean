import K1s.Inference.Leases
import K1s.Py.Json

/-!
# Placement of pipeline stages

`StagePlanner.plan` gives every pipeline stage of an inference cell a node of its own
with enough GPUs.  The sites of the stages follow a pattern, and in its site a stage
takes the first node that no earlier stage has.

The main result is that a plan is sound whatever members the cell lists, nodes that
are listed twice and sites of uneven size included.
-/

namespace K1s
namespace Inference

open Py

/-! ## Cells -/

/-- What is known of how a member has booted. -/
structure BootAssurance where
  schedulable : Bool
  quarantined : Bool

inductive MemberRole
  | gateway
  | cellNode
  deriving DecidableEq

/-- `InferenceMemberSpec`. -/
structure CellMember where
  siteId : String
  nodeId : String
  gpuCount : Int
  role : Option MemberRole
  bootAssurance : Option BootAssurance

/-- What the planner reads of `InferenceCellSpec`. -/
structure CellLayout where
  tp : Int
  pp : Int
  members : List CellMember
  packStagesBySite : Bool
  /-- The share of a GPU that the contract of the cell reserves on the gateway, if there
  is a contract. -/
  gatewayReservedGpuFraction : Option Rat

structure SitedPlacement extends StagePlacement where
  siteId : String

/-! ## The planner -/

def siteOrder (members : List CellMember) : List String :=
  members.foldl (fun sites member =>
    if sites.contains member.siteId then sites else sites ++ [member.siteId]) []

/-- `_members_by_site(members).get(site_id, [])`. -/
def membersBySite (members : List CellMember) (siteId : String) : List CellMember :=
  members.filter fun member => member.siteId = siteId

def CellMember.bootSchedulable (member : CellMember) : Bool :=
  member.bootAssurance.all fun assurance => assurance.schedulable && !assurance.quarantined

def effectiveGpuCount (reserved : Rat) (member : CellMember) : Rat :=
  max 0 (if member.role = some .gateway then member.gpuCount - reserved else member.gpuCount)

/-- The order of the candidates: more GPUs first, then as they are listed. -/
def ranksBefore (reserved : Rat) (first second : CellMember × Nat) : Prop :=
  effectiveGpuCount reserved second.1 < effectiveGpuCount reserved first.1 ∨
    effectiveGpuCount reserved second.1 = effectiveGpuCount reserved first.1 ∧ first.2 ≤ second.2

instance (reserved : Rat) : DecidableRel (ranksBefore reserved) :=
  fun _ _ => inferInstanceAs (Decidable (_ ∨ _))

def orderedStageCandidates (layout : CellLayout) (members : List CellMember) :
    List CellMember :=
  match layout.gatewayReservedGpuFraction with
  | none => members
  | some reserved =>
      if reserved ≤ 0 then members
      else (members.zipIdx.insertionSort (ranksBefore reserved)).map Prod.fst

/-- The members that can take a stage. -/
def eligibleMembers (layout : CellLayout) : List CellMember :=
  layout.members.filter fun member =>
    decide (layout.tp ≤ member.gpuCount) && member.bootSchedulable

/-- `stage_sites`: two stages on two sites, four packed stages on two each, and else
one site after the other. -/
def stageSites (layout : CellLayout) : List String → List String
  | first :: second :: rest =>
      if layout.pp = 2 then [first, second]
      else if layout.pp = 4 ∧ layout.packStagesBySite = true then
        [first, first, second, second]
      else (List.range layout.pp.toNat).map fun stage =>
        (first :: second :: rest).getD (stage % (rest.length + 2)) ""
  | sites => (List.range layout.pp.toNat).map fun stage =>
      sites.getD (stage % sites.length) ""

/-- The loop over the sites of the stages. -/
def placeStages (tp : Int) (eligible : List CellMember) :
    Int → List String → List String → Except String (List SitedPlacement)
  | _, _, [] => .ok []
  | stage, usedNodes, siteId :: rest =>
      match (membersBySite eligible siteId).find? fun member =>
        !usedNodes.contains member.nodeId with
      | none => .error ("insufficient unique nodes in site " ++ reprText siteId ++
          " for stage " ++ toString stage)
      | some chosen =>
          (placeStages tp eligible (stage + 1) (chosen.nodeId :: usedNodes) rest).map fun later =>
            { stage := stage
              nodeId := chosen.nodeId
              gpuIndices := (List.range tp.toNat).map Int.ofNat
              siteId := chosen.siteId } :: later

/-- `StagePlanner.plan`. -/
def plan (layout : CellLayout) : Except String (List SitedPlacement) :=
  if layout.tp ≤ 0 ∨ layout.pp ≤ 0 then .error "parallelism tp/pp must be > 0"
  else
    let eligible := eligibleMembers layout
    if eligible.length < layout.pp then
      .error ("need " ++ toString layout.pp ++ " members with gpu_count >= tp=" ++
        toString layout.tp ++ ", found " ++ toString eligible.length)
    else
      let sites := siteOrder eligible
      if sites.isEmpty then .error "no eligible sites for placement"
      else
        placeStages layout.tp (orderedStageCandidates layout eligible) 0 []
          (stageSites layout sites)

/-- How often consecutive stages are on different sites. -/
def boundaries : List String → Nat
  | first :: second :: rest =>
      (if first = second then 0 else 1) + boundaries (second :: rest)
  | _ => 0

/-! ## Sound plans -/

/-- The member may run a stage. -/
structure CellMember.Suits (layout : CellLayout) (member : CellMember) : Prop where
  listed : member ∈ layout.members
  enough : layout.tp ≤ member.gpuCount
  schedulable : ∀ assurance, member.bootAssurance = some assurance → assurance.schedulable = true
  free : ∀ assurance, member.bootAssurance = some assurance → assurance.quarantined = false

/-- A plan that has what the cell asks for. -/
structure SoundPlan (layout : CellLayout) (placements : List SitedPlacement) : Prop where
  number : (placements.length : Int) = layout.pp
  stages : placements.map (fun placement => placement.stage) =
    (List.range placements.length).map Int.ofNat
  distinct : (placements.map fun placement => placement.nodeId).Nodup
  members : ∀ placement ∈ placements, ∃ member : CellMember, member.Suits layout ∧
    member.nodeId = placement.nodeId ∧ member.siteId = placement.siteId
  slots : (gpuSlots (placements.map SitedPlacement.toStagePlacement)).Nodup
  packed : layout.packStagesBySite = true → layout.pp = 4 →
    2 ≤ (siteOrder (eligibleMembers layout)).length →
      boundaries (placements.map SitedPlacement.siteId) = 1

/-! ### Sites and candidates -/

variable {sites : List String}

theorem nodup_foldl_sites (members : List CellMember) (distinct : sites.Nodup) :
    (members.foldl (fun sites member =>
      if sites.contains member.siteId then sites else sites ++ [member.siteId]) sites).Nodup := by
  induction members generalizing sites with
  | nil => exact distinct
  | cons member rest ih =>
      rw [List.foldl_cons]
      apply ih
      split_ifs with known
      · exact distinct
      · rw [List.contains_iff_mem] at known
        rw [← List.concat_eq_append]
        exact distinct.concat known

theorem nodup_siteOrder (members : List CellMember) : (siteOrder members).Nodup :=
  nodup_foldl_sites members List.nodup_nil

theorem orderedStageCandidates_perm (layout : CellLayout) (members : List CellMember) :
    (orderedStageCandidates layout members).Perm members := by
  unfold orderedStageCandidates
  split
  · exact List.Perm.refl _
  · split_ifs
    · exact List.Perm.refl _
    · apply ((List.perm_insertionSort _ _).map Prod.fst).trans
      rw [List.zipIdx_map_fst]

variable {layout : CellLayout}

theorem suits_of_mem_eligible
    {member : CellMember}
    (member_mem : member ∈ eligibleMembers layout) : member.Suits layout := by
  rw [eligibleMembers, List.mem_filter, Bool.and_eq_true, decide_eq_true_eq] at member_mem
  obtain ⟨listed, enough, schedulable⟩ := member_mem
  refine ⟨listed, enough, ?_, ?_⟩ <;>
  · intro assurance given
    simp only [CellMember.bootSchedulable, given, Option.all_some, Bool.and_eq_true,
      Bool.not_eq_true'] at schedulable
    simp [schedulable]

theorem length_stageSites (layout : CellLayout) (sites : List String) :
    (stageSites layout sites).length = layout.pp.toNat := by
  unfold stageSites
  split
  · split_ifs with two four
    · simp [two]
    · simp [four.1]
    · simp
  · simp

/-- Four packed stages cross from the first site to the second once. -/
theorem boundaries_stageSites
    (distinct : sites.Nodup) (several : 2 ≤ sites.length)
    (packed : layout.packStagesBySite = true) (four : layout.pp = 4) :
    boundaries (stageSites layout sites) = 1 := by
  match sites, several with
  | first :: second :: rest, _ =>
      have apart : first ≠ second := by
        rintro rfl
        simp at distinct
      simp [stageSites, four, packed, boundaries, apart]

/-! ### The loop -/

/-- What the loop places from a stage on: the nodes are new, and each is that of a
candidate in its site. -/
structure Placed
    (tp : Int) (eligible : List CellMember) (stage : Int) (usedNodes stageSites : List String)
    (placements : List SitedPlacement) : Prop where
  sites : placements.map SitedPlacement.siteId = stageSites
  stages : placements.map (fun placement => placement.stage) =
    (List.range placements.length).map fun (index : Nat) => stage + index
  distinct : (placements.map fun placement => placement.nodeId).Nodup
  fresh : ∀ placement ∈ placements, placement.nodeId ∉ usedNodes
  members : ∀ placement ∈ placements, ∃ member ∈ eligible,
    member.nodeId = placement.nodeId ∧ member.siteId = placement.siteId
  gpus : ∀ placement ∈ placements, placement.gpuIndices = (List.range tp.toNat).map Int.ofNat

variable {placements : List SitedPlacement}

theorem placed_of_placeStages
    {tp stage : Int} {eligible : List CellMember} {usedNodes stageSites : List String}
    (placed : placeStages tp eligible stage usedNodes stageSites = .ok placements) :
    Placed tp eligible stage usedNodes stageSites placements := by
  induction stageSites generalizing stage usedNodes placements with
  | nil =>
      obtain rfl := Except.ok.inj placed
      exact ⟨rfl, rfl, List.nodup_nil, by simp, by simp, by simp⟩
  | cons siteId rest ih =>
      rw [placeStages] at placed
      split at placed
      · cases placed
      · next chosen found =>
          cases remaining : placeStages tp eligible (stage + 1) (chosen.nodeId :: usedNodes)
              rest with
          | error message =>
              rw [remaining] at placed
              cases placed
          | ok later =>
              rw [remaining] at placed
              obtain rfl := Except.ok.inj placed
              have after := ih remaining
              have unused : chosen.nodeId ∉ usedNodes := by
                simpa [List.contains_iff_mem] using List.find?_some found
              obtain ⟨candidate, inSite⟩ := List.mem_filter.mp (List.mem_of_find?_eq_some found)
              have site : chosen.siteId = siteId := by simpa using inSite
              constructor
              · rw [List.map_cons, after.sites, site]
              · rw [List.map_cons, after.stages, List.length_cons, List.range_succ_eq_map,
                  List.map_cons, List.map_map]
                congr 1
                · simp
                · apply List.map_congr_left
                  intro index _
                  simp only [Function.comp_apply]
                  omega
              · rw [List.map_cons, List.nodup_cons]
                refine ⟨?_, after.distinct⟩
                intro again
                obtain ⟨placement, member, same⟩ := List.mem_map.mp again
                apply after.fresh placement member
                rw [same]
                exact List.mem_cons_self
              · rw [List.forall_mem_cons]
                refine ⟨unused, fun placement member used => ?_⟩
                exact after.fresh placement member (List.mem_cons_of_mem _ used)
              · rw [List.forall_mem_cons]
                exact ⟨⟨chosen, candidate, rfl, rfl⟩, after.members⟩
              · rw [List.forall_mem_cons]
                exact ⟨rfl, after.gpus⟩

/-- Nodes of their own have slots of their own. -/
theorem nodup_gpuSlots
    {placements : List StagePlacement} (distinct : (placements.map StagePlacement.nodeId).Nodup)
    (gpus : ∀ placement ∈ placements, placement.gpuIndices.Nodup) :
    (gpuSlots placements).Nodup := by
  rw [gpuSlots, List.nodup_flatMap]
  constructor
  · intro placement member
    apply (gpus placement member).map
    intro first second same
    exact (Prod.mk.inj same).2
  · rw [List.Nodup, List.pairwise_map] at distinct
    apply distinct.imp
    intro first second different slot inFirst inSecond
    obtain ⟨_, -, rfl⟩ := List.mem_map.mp inFirst
    obtain ⟨_, -, same⟩ := List.mem_map.mp inSecond
    exact different (Prod.mk.inj same).1.symm

theorem soundPlan_of_plan
    (planned : plan layout = .ok placements) : SoundPlan layout placements := by
  unfold plan at planned
  dsimp only at planned
  split_ifs at planned with invalid few nowhere
  have placed := placed_of_placeStages planned
  have lengths : placements.length = layout.pp.toNat := by
    rw [← length_stageSites layout (siteOrder (eligibleMembers layout)), ← placed.sites,
      List.length_map]
  constructor
  · omega
  · rw [placed.stages]
    apply List.map_congr_left
    intro index _
    simp
  · exact placed.distinct
  · intro placement member
    obtain ⟨candidate, among, node, site⟩ := placed.members placement member
    have eligible := (orderedStageCandidates_perm layout _).mem_iff.mp among
    exact ⟨candidate, suits_of_mem_eligible eligible, node, site⟩
  · apply nodup_gpuSlots
    · rw [List.map_map]
      exact placed.distinct
    · intro stagePlacement member
      obtain ⟨placement, listed, rfl⟩ := List.mem_map.mp member
      rw [placed.gpus placement listed]
      apply List.nodup_range.map
      exact Int.ofNat_injective
  · intro packed four several
    rw [placed.sites]
    exact boundaries_stageSites (nodup_siteOrder _) several packed four

theorem ne_nil_of_plan (planned : plan layout = .ok placements) : placements ≠ [] := by
  have number := (soundPlan_of_plan planned).number
  unfold plan at planned
  dsimp only at planned
  split_ifs at planned with invalid few nowhere
  rintro rfl
  simp at number
  omega

end Inference
end K1s
